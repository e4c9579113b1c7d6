import WebForms.Text.CharClass

/-!
# Member access and calls in front of a caret

Code is read backwards from the caret, since what stands in front of a statement does not matter.
A chain such as `Page.Find(x).Te` is a list of segments, each perhaps a call, and the beginning of
a name. The call around a caret is found at the first parenthesis that is not closed in front of
it. All functions here take the text reversed, so that the caret is at the front.

## Main definitions

* `AccessSegment`, `MemberAccess` — a chain and the name that is being typed
* `accessBefore` — the chain in front of a caret
* `CallSite`, `openCall?` — the call in which a caret stands
-/

namespace WebForms

/-- A character of an identifier. -/
def isIdentifierChar (c : Char) : Bool := Text.isAlphanumeric c || c == '_'

/-- A step of a chain: the name of a member, and whether it is called. -/
structure AccessSegment where
  name : String
  invoked : Bool := false
  deriving DecidableEq, Repr, Inhabited

/-- A chain, each segment of it followed by a dot, and the name that is being typed. -/
structure MemberAccess where
  chain : List AccessSegment := []
  partialName : String := ""
  deriving DecidableEq, Repr, Inhabited

/-- The identifier with which a reversed text begins, the right way round. -/
def identifierAt (rs : List Char) : String := String.ofList (rs.takeWhile isIdentifierChar).reverse

/-- What follows that identifier. -/
def pastIdentifier (rs : List Char) : List Char := rs.dropWhile isIdentifierChar

/-- What is left of a reversed text behind the parenthesis that opens the present group, when
`depth` inner groups have to be opened before. -/
def pastGroup? : Nat → List Char → Option (List Char)
  | _, [] => none
  | depth, ')' :: rs => pastGroup? (depth + 1) rs
  | 0, '(' :: rs => some rs
  | depth + 1, '(' :: rs => pastGroup? depth rs
  | depth, _ :: rs => pastGroup? depth rs

theorem length_pastGroup?_lt {depth : Nat} {rs rest : List Char}
    (h : pastGroup? depth rs = some rest) : rest.length < rs.length := by
  fun_induction pastGroup? depth rs with
  | case1 => simp at h
  | case2 depth rs ih => exact Nat.lt_succ_of_lt (ih h)
  | case3 rs =>
    obtain rfl := Option.some.inj h
    exact Nat.lt_succ_self _
  | case4 depth rs ih => exact Nat.lt_succ_of_lt (ih h)
  | case5 depth c rs _ _ _ ih => exact Nat.lt_succ_of_lt (ih h)

/-- What is left of a reversed text behind the arguments of a call with which it begins, if it
begins so; none when their parentheses do not match. The flag tells whether there are any. -/
def pastArguments? (rs : List Char) : Option (Bool × List Char) :=
  match rs with
  | ')' :: rs => (pastGroup? 0 rs).map (true, ·)
  | _ => some (false, rs)

theorem length_pastArguments?_le {rs rest : List Char} {invoked : Bool}
    (h : pastArguments? rs = some (invoked, rest)) : rest.length ≤ rs.length := by
  unfold pastArguments? at h
  split at h
  · obtain ⟨_, hr, he⟩ := Option.map_eq_some_iff.1 h
    obtain ⟨-, rfl⟩ := Prod.mk.inj he
    exact Nat.le_succ_of_le (Nat.le_of_lt (length_pastGroup?_lt hr))
  · obtain ⟨-, rfl⟩ := Prod.mk.inj (Option.some.inj h)
    exact Nat.le_refl _

/-- The segments that a reversed text continues with, added in front of `chain`. Each is followed
by a dot; where no name stands in front of a dot, the chain begins. -/
def chainBefore (chain : List AccessSegment) (rs : List Char) : List AccessSegment :=
  match rs with
  | '.' :: rs =>
    match h : pastArguments? rs with
    | none => chain
    | some (invoked, rest) =>
      let name := identifierAt rest
      if name.isEmpty then chain
      else
        have : (pastIdentifier rest).length ≤ rs.length :=
          Nat.le_trans (List.dropWhile_sublist _).length_le (length_pastArguments?_le h)
        chainBefore (⟨name, invoked⟩ :: chain) (pastIdentifier rest)
  | _ => chain
  termination_by rs.length
  decreasing_by exact Nat.lt_succ_of_le this

/-- The chain and the name in front of a caret; `rs` is the text in front of it, reversed. -/
def accessBefore (rs : List Char) : MemberAccess :=
  { chain := chainBefore [] (pastIdentifier rs), partialName := identifierAt rs }

/-- A call that has not been closed: what it is a member of, its name, and the number of commas
between its arguments so far. -/
structure CallSite where
  target : List AccessSegment
  method : String
  activeParameter : Nat
  deriving DecidableEq, Repr

/-- The call whose opening parenthesis has been met; `rs` is the reversed text in front of it. -/
def callAt? (commas : Nat) (rs : List Char) : Option CallSite :=
  let access := accessBefore rs
  if access.partialName.isEmpty then none
  else some ⟨access.chain, access.partialName, commas⟩

/-- Looks for the call backwards, having met `depth` more closing than opening parentheses and
`commas` commas outside them; text between double quotes is passed over. -/
def openCallFrom? (depth commas : Nat) (inString : Bool) : List Char → Option CallSite
  | [] => none
  | '"' :: rs => openCallFrom? depth commas (!inString) rs
  | c :: rs =>
    if inString then openCallFrom? depth commas inString rs
    else if c = ')' then openCallFrom? (depth + 1) commas inString rs
    else if c = '(' then
      if depth = 0 then callAt? commas rs else openCallFrom? (depth - 1) commas inString rs
    else if c = ',' ∧ depth = 0 then openCallFrom? depth (commas + 1) inString rs
    else openCallFrom? depth commas inString rs

/-- The call in which a caret stands; `rs` is the text in front of the caret, reversed. -/
def openCall? (rs : List Char) : Option CallSite := openCallFrom? 0 0 false rs

end WebForms
