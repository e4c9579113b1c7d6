import WebForms.Code.Members
import WebForms.Proofs.Code.Parentheses
import WebForms.Proofs.Text.Slices

/-!
# Cuts in front of a caret

The chain in front of a caret is found by going backwards through the text with its offsets and
cutting the text where a name or a group of parentheses begins; the call around a caret is found in
the same way. Each offset belongs to a character that has been passed, so the text ends, for the
rest of the search, in front of a character of it. Here the cuts are made by offset and with a
check, the number of open groups is taken down with a check, and the results are those of the
search in the reversed text, which cuts nothing.

## Main definitions

* `segmentChecked`, `accessChecked` — a segment of a chain, the chain and the name at a caret
* `openCallChecked` — the call in which a caret stands
* `Snippet.beforeChecked` — the code in front of the caret of a snippet

## Main results

* `accessChecked_eq`, `openCallChecked_eq`, `Snippet.beforeChecked_eq` — no cut fails
-/

namespace WebForms

open Text

/-! ### The search with offsets -/

/-- The offset at which the identifier begins with which a text ends, or its end. -/
def identifierStart (cs : List Char) : Nat :=
  (((charOffsets 0 cs).reverse.takeWhile (isIdentifierChar ·.2)).getLast?.map (·.1)).getD
    (byteLength cs)

/-- The offset of the parenthesis that opens a group, when characters are met backwards with their
offsets and `depth` groups have been entered. -/
def openParenFrom? (depth : Nat) : List (Nat × Char) → Option Nat
  | [] => none
  | (i, c) :: ps =>
    if c = ')' then openParenFrom? (depth + 1) ps
    else if c = '(' then
      if depth = 0 then none else if depth = 1 then some i else openParenFrom? (depth - 1) ps
    else openParenFrom? depth ps

/-- The offset of the parenthesis that matches the one with which a text ends. -/
def matchingParen? (cs : List Char) : Option Nat := openParenFrom? 0 (charOffsets 0 cs).reverse

/-- The text in front of the arguments with which it ends, if it ends so; none when their
parentheses do not match. -/
def argumentsChecked (cs : List Char) : Checked (Option (Bool × List Char)) :=
  if cs.getLast? = some ')' then
    match matchingParen? cs with
    | none => return none
    | some start => do return some (true, ← slice cs 0 start)
  else return some (false, cs)

/-- The segment in front of the dot with which a text ends, and the text in front of it. -/
def segmentChecked (cs : List Char) : Checked (Option (AccessSegment × List Char)) :=
  if cs.getLast? = some '.' then do
    match ← argumentsChecked cs.dropLast with
    | none => return none
    | some (invoked, rest) =>
      let start := identifierStart rest
      let name ← slice rest start (byteLength rest)
      if name.isEmpty then return none
      return some (⟨String.ofList name, invoked⟩, ← slice rest 0 start)
  else return none

/-- The segment with which a reversed text begins, and what follows it. -/
def segmentAt? (rs : List Char) : Option (AccessSegment × List Char) :=
  match rs with
  | '.' :: rs =>
    match pastArguments? rs with
    | none => none
    | some (invoked, rest) =>
      if (identifierAt rest).isEmpty then none
      else some (⟨identifierAt rest, invoked⟩, pastIdentifier rest)
  | _ => none

/-! ### Names -/

section

variable {rs rest : List Char} {segment : AccessSegment} {depth i : Nat}

theorem identifierStart_reverse (rs : List Char) :
    identifierStart rs.reverse = byteLength (pastIdentifier rs) := by
  unfold identifierStart pastIdentifier
  rw [reverse_charOffsets, byteLength_reverse]
  -- From the end of the text: the name begins with the last of its characters that is met.
  induction rs with
  | nil => rfl
  | cons c rs ih =>
    by_cases named : isIdentifierChar c
    · simp only [offsetsBefore, List.takeWhile_cons, named, if_true, List.dropWhile_cons,
        List.getLast?_cons, Option.map_some, Option.getD_some]
      rw [← ih]
      cases ((offsetsBefore rs).takeWhile (isIdentifierChar ·.2)).getLast? <;> rfl
    · simp [offsetsBefore, named]

theorem reverse_eq_identifier (rs : List Char) :
    rs.reverse = (pastIdentifier rs).reverse ++ (identifierAt rs).toList := by
  rw [identifierAt, String.toList_ofList, ← List.reverse_append, pastIdentifier,
    List.takeWhile_append_dropWhile]

/-- The name with which a text ends is cut off in front. -/
theorem slice_identifierStart (rs : List Char) :
    slice rs.reverse (identifierStart rs.reverse) (byteLength rs.reverse) =
      .ok (identifierAt rs).toList := by
  have cut := slice_append_byteLength (pastIdentifier rs).reverse (identifierAt rs).toList
  rwa [← reverse_eq_identifier, byteLength_reverse (pastIdentifier rs),
    ← identifierStart_reverse] at cut

theorem slice_zero_identifierStart (rs : List Char) :
    slice rs.reverse 0 (identifierStart rs.reverse) = .ok (pastIdentifier rs).reverse := by
  have cut := slice_zero_append (pastIdentifier rs).reverse (identifierAt rs).toList
  rwa [← reverse_eq_identifier, byteLength_reverse (pastIdentifier rs),
    ← identifierStart_reverse] at cut

/-! ### Groups -/

/-- Both searches meet the same parenthesis. -/
theorem openParenFrom?_offsetsBefore (depth : Nat) (rs : List Char) :
    openParenFrom? (depth + 1) (offsetsBefore rs) = (pastGroup? depth rs).map byteLength := by
  induction rs generalizing depth with
  | nil =>
    rw [pastGroup?]
    rfl
  | cons c rs ih =>
    by_cases closes : c = ')'
    · subst closes
      rw [pastGroup?, ← ih]
      rfl
    by_cases opens : c = '('
    · subst opens
      cases depth with
      | zero =>
        rw [pastGroup?]
        rfl
      | succ depth =>
        rw [pastGroup?, ← ih]
        rfl
    · rw [offsetsBefore, openParenFrom?, if_neg closes, if_neg opens,
        pastGroup?_other opens closes, ih]

theorem argumentsChecked_reverse (rs : List Char) :
    argumentsChecked rs.reverse =
      .ok ((pastArguments? rs).map fun (invoked, rest) => (invoked, rest.reverse)) := by
  unfold argumentsChecked pastArguments?
  rw [List.getLast?_reverse]
  by_cases last : rs.head? = some ')'
  · obtain ⟨rs, rfl⟩ := List.head?_eq_some_iff.mp last
    have matching : matchingParen? (')' :: rs).reverse = (pastGroup? 0 rs).map byteLength := by
      rw [matchingParen?, reverse_charOffsets, ← openParenFrom?_offsetsBefore]
      rfl
    rw [if_pos last, matching]
    cases found : pastGroup? 0 rs with
    | none => simp [found]
    | some rest =>
      obtain ⟨cs, rfl, -⟩ := exists_openGroups_of_pastGroup? found
      have cut := slice_zero_append rest.reverse ('(' :: cs ++ [')'])
      have backwards : rest.reverse ++ ('(' :: cs ++ [')']) =
          (')' :: (cs.reverse ++ '(' :: rest)).reverse := by simp
      rw [backwards, byteLength_reverse] at cut
      simp only [Option.map_some, found, cut]
      rfl
  · rw [if_neg last]
    split
    · exact absurd rfl last
    · rfl

/-! ### Chains -/

theorem segmentChecked_reverse (rs : List Char) :
    segmentChecked rs.reverse =
      .ok ((segmentAt? rs).map fun (segment, rest) => (segment, rest.reverse)) := by
  unfold segmentChecked segmentAt?
  rw [List.getLast?_reverse]
  by_cases last : rs.head? = some '.'
  · obtain ⟨rs, rfl⟩ := List.head?_eq_some_iff.mp last
    have stripped : ('.' :: rs).reverse.dropLast = rs.reverse := by simp
    rw [if_pos last, stripped, argumentsChecked_reverse, Checked.ok_bind]
    cases found : pastArguments? rs with
    | none => simp [found]
    | some arguments =>
      obtain ⟨invoked, rest⟩ := arguments
      simp only [Option.map_some, slice_identifierStart, slice_zero_identifierStart,
        Checked.ok_bind, found]
      have empty : (identifierAt rest).toList.isEmpty = (identifierAt rest).isEmpty := by
        rw [Bool.eq_iff_iff, List.isEmpty_iff, String.isEmpty_iff, String.toList_eq_nil_iff]
      rw [empty, String.ofList_toList]
      split <;> rfl
  · rw [if_neg last]
    split
    · exact absurd rfl last
    · rfl

/-- A chain goes on with the segment with which the reversed text begins. -/
theorem chainBefore_eq (chain : List AccessSegment) (rs : List Char) :
    chainBefore chain rs =
      match segmentAt? rs with
      | none => chain
      | some (segment, rest) => chainBefore (segment :: chain) rest := by
  by_cases last : rs.head? = some '.'
  · obtain ⟨rs, rfl⟩ := List.head?_eq_some_iff.mp last
    rw [chainBefore, segmentAt?]
    split
    next found => simp only [found]
    next invoked rest found =>
      simp only [found]
      split <;> rfl
  · have apart : ∀ rest, rs ≠ '.' :: rest := by
      rintro rest rfl
      exact last rfl
    rw [chainBefore, segmentAt?] <;> exact apart

theorem length_lt_of_segmentAt? (h : segmentAt? rs = some (segment, rest)) :
    rest.length < rs.length := by
  unfold segmentAt? at h
  split at h
  next rs =>
    cases found : pastArguments? rs with
    | none => simp [found] at h
    | some arguments =>
      obtain ⟨invoked, behind⟩ := arguments
      simp only [found] at h
      split_ifs at h
      obtain ⟨-, rfl⟩ := Prod.mk.inj (Option.some.inj h)
      exact Nat.lt_succ_of_le (Nat.le_trans (List.dropWhile_sublist _).length_le
        (length_pastArguments?_le found))
  next => cases h

theorem length_lt_of_segmentChecked {cs rest : List Char}
    (h : segmentChecked cs = .ok (some (segment, rest))) : rest.length < cs.length := by
  have reversed := segmentChecked_reverse cs.reverse
  rw [List.reverse_reverse, h] at reversed
  obtain ⟨⟨segment', rest'⟩, found, same⟩ := Option.map_eq_some_iff.mp (Except.ok.inj reversed).symm
  have shorter := length_lt_of_segmentAt? found
  simp only [Prod.mk.injEq] at same
  rw [← same.2]
  simpa using shorter

end

/-- The segments with which a text ends, in front of `chain`. -/
def chainChecked (chain : List AccessSegment) (cs : List Char) : Checked (List AccessSegment) :=
  match h : segmentChecked cs with
  | .error fault => .error fault
  | .ok none => .ok chain
  | .ok (some (segment, rest)) =>
    have : rest.length < cs.length := length_lt_of_segmentChecked h
    chainChecked (segment :: chain) rest
  termination_by cs.length

theorem chainChecked_eq (chain : List AccessSegment) {cs : List Char}
    {read : Option (AccessSegment × List Char)} : segmentChecked cs = .ok read →
      chainChecked chain cs =
        match read with
        | none => .ok chain
        | some (segment, rest) => chainChecked (segment :: chain) rest := by
  intro h
  rw [chainChecked]
  split
  next fault failed => exact nomatch h.symm.trans failed
  next none' =>
    obtain rfl := Except.ok.inj (h.symm.trans none')
    rfl
  next segment rest some' =>
    obtain rfl := Except.ok.inj (h.symm.trans some')
    rfl

/-- The segments are those of the reversed text, one after the other. -/
theorem chainChecked_reverse (chain : List AccessSegment) (rs : List Char) :
    chainChecked chain rs.reverse = .ok (chainBefore chain rs) := by
  -- On the length of the text, since a segment may take away any number of characters.
  induction hn : rs.length using Nat.strong_induction_on generalizing chain rs with
  | _ n ih =>
    subst hn
    rw [chainChecked_eq chain (segmentChecked_reverse rs), chainBefore_eq]
    cases found : segmentAt? rs with
    | none => rfl
    | some read => exact ih _ (length_lt_of_segmentAt? found) _ _ rfl

/-- The chain and the name in front of a caret; `cs` is the text in front of it. -/
def accessChecked (cs : List Char) : Checked MemberAccess := do
  let start := identifierStart cs
  let partialName ← slice cs start (byteLength cs)
  let chain ← chainChecked [] (← slice cs 0 start)
  return { chain, partialName := String.ofList partialName }

theorem accessChecked_eq (cs : List Char) :
    accessChecked cs = .ok (accessBefore cs.reverse) := by
  obtain ⟨rs, rfl⟩ : ∃ rs : List Char, cs = rs.reverse := ⟨cs.reverse, cs.reverse_reverse.symm⟩
  simp only [accessChecked, slice_identifierStart, slice_zero_identifierStart, Checked.ok_bind,
    chainChecked_reverse, String.ofList_toList, List.reverse_reverse]
  rfl

/-! ### Calls -/

/-- Looks for the call backwards, among the characters of `cs` with their offsets, having met
`depth` more closing than opening parentheses and `commas` commas outside them. -/
def openCallFromChecked (cs : List Char) (depth commas : Nat) (inString : Bool) :
    List (Nat × Char) → Checked (Option CallSite)
  | [] => return none
  | (i, c) :: ps =>
    if c = '"' then openCallFromChecked cs depth commas (!inString) ps
    else if inString then openCallFromChecked cs depth commas inString ps
    else if c = ')' then openCallFromChecked cs (depth + 1) commas inString ps
    else if c = '(' then
      if depth = 0 then do
        let access ← accessChecked (← slice cs 0 i)
        if access.partialName.isEmpty then return none
        return some ⟨access.chain, access.partialName, commas⟩
      else do openCallFromChecked cs (← less depth 1) commas inString ps
    else if c = ',' ∧ depth = 0 then openCallFromChecked cs depth (commas + 1) inString ps
    else openCallFromChecked cs depth commas inString ps

/-- The call in which a caret stands; `cs` is the text in front of the caret. -/
def openCallChecked (cs : List Char) : Checked (Option CallSite) :=
  openCallFromChecked cs 0 0 false (charOffsets 0 cs).reverse

theorem openCallFrom?_cons (depth commas : Nat) (inString : Bool) (c : Char) (rs : List Char) :
    openCallFrom? depth commas inString (c :: rs) =
      if c = '"' then openCallFrom? depth commas (!inString) rs
      else if inString then openCallFrom? depth commas inString rs
      else if c = ')' then openCallFrom? (depth + 1) commas inString rs
      else if c = '(' then
        if depth = 0 then callAt? commas rs else openCallFrom? (depth - 1) commas inString rs
      else if c = ',' ∧ depth = 0 then openCallFrom? depth (commas + 1) inString rs
      else openCallFrom? depth commas inString rs := by
  by_cases quote : c = '"'
  · subst quote
    rw [openCallFrom?, if_pos rfl]
  · rw [openCallFrom?, if_neg quote]
    exact quote

/-- Only the text in front of a parenthesis is cut off, whatever has been passed before; and only an
opening parenthesis that closes a group which has been entered takes the depth down. -/
theorem openCallFromChecked_eq (rs passed : List Char) (depth commas : Nat) (inString : Bool) :
    openCallFromChecked (rs.reverse ++ passed) depth commas inString (offsetsBefore rs) =
      .ok (openCallFrom? depth commas inString rs) := by
  -- Each character that is read joins those that have been passed, so the whole text stays.
  induction rs generalizing passed depth commas inString with
  | nil => rfl
  | cons c rs ih =>
    rw [List.reverse_cons, List.append_assoc, offsetsBefore, openCallFromChecked,
      openCallFrom?_cons]
    split_ifs with quote inside closing opening outermost comma
    · exact ih _ depth commas (!inString)
    · exact ih _ depth commas inString
    · exact ih _ (depth + 1) commas inString
    · have cut := slice_zero_append rs.reverse ([c] ++ passed)
      rw [byteLength_reverse] at cut
      rw [cut, Checked.ok_bind, accessChecked_eq, Checked.ok_bind, List.reverse_reverse, callAt?]
      split_ifs <;> rfl
    · obtain ⟨outer, rfl⟩ := Nat.exists_eq_succ_of_ne_zero outermost
      rw [Nat.succ_eq_add_one, less_add, Checked.ok_bind, Nat.add_sub_cancel]
      exact ih _ outer commas inString
    · exact ih _ depth (commas + 1) inString
    · exact ih _ depth commas inString

theorem openCallChecked_eq (cs : List Char) :
    openCallChecked cs = .ok (openCall? cs.reverse) := by
  have found := openCallFromChecked_eq cs.reverse [] 0 0 false
  rw [List.append_nil, ← reverse_charOffsets, List.reverse_reverse] at found
  exact found

/-! ### Snippets -/

/-- The code in front of the caret. -/
def Snippet.beforeChecked (s : Snippet) : Checked (List Char) := slice s.code.toList 0 s.caret

theorem Snippet.beforeChecked_eq (s : Snippet) : s.beforeChecked = .ok s.before.toList := by
  rw [beforeChecked, code, caret, String.toList_append, ← byteLength_toList, slice_zero_append]

namespace CodeScope

/-- The items at the caret of a snippet. -/
def itemsChecked (s : CodeScope) (snippet : Snippet) : Checked (List CompletionItem) := do
  let access ← accessChecked (← snippet.beforeChecked)
  match access.chain with
  | [] => return s.scopeItems
  | chain@(first :: rest) =>
    match s.typeOfChain? chain with
    | some t => return s.memberItems t (rest.isEmpty && s.isSelf first.name)
    | none => return []

/-- The methods that the call around the caret may mean. -/
def signatureHelpChecked (s : CodeScope) (snippet : Snippet) :
    Checked (Option SignatureHelp) := do
  let some call ← openCallChecked (← snippet.beforeChecked) | return none
  let methods := s.overloads call
  if methods.isEmpty then return none
  return some {
    signatures := methods.map (signatureInfo s.language)
    activeSignature := (methods.findIdx? (call.activeParameter < ·.parameters.length)).getD 0
    activeParameter := call.activeParameter }

theorem itemsChecked_eq (s : CodeScope) (snippet : Snippet) :
    s.itemsChecked snippet = .ok (s.itemsAt snippet) := by
  rw [itemsChecked, Snippet.beforeChecked_eq, Checked.ok_bind, accessChecked_eq, Checked.ok_bind,
    itemsAt]
  cases chain : (accessBefore snippet.before.toList.reverse).chain with
  | nil => rfl
  | cons first rest =>
    simp only
    cases s.typeOfChain? (first :: rest) <;> rfl

theorem signatureHelpChecked_eq (s : CodeScope) (snippet : Snippet) :
    s.signatureHelpChecked snippet = .ok (s.signatureHelp? snippet) := by
  rw [signatureHelpChecked, Snippet.beforeChecked_eq, Checked.ok_bind, openCallChecked_eq,
    Checked.ok_bind, signatureHelp?]
  cases openCall? snippet.before.toList.reverse with
  | none => rfl
  | some call =>
    simp only [Option.bind_eq_bind, Option.bind_some]
    split <;> rfl

end CodeScope

end WebForms
