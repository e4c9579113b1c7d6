import WebForms.Proofs.Code.Braces

/-!
# The end of a class in braces

The place for a new member of a class is found by counting braces, wherever they stand. A reader of
the language counts those of the code only: a brace in a literal or a comment opens and closes
nothing, and a declaration in one of them declares nothing. Here a source is given as such a reader
takes it, in pieces, and the place that is found is compared with the end of the class that is
declared in it.

## Main definitions

* `SourcePiece` — a character of code, a literal or a comment
* `DeclaredClass` — a source in pieces around the declaration of a class
* `DeclaredClass.IsMemberPlace` — the places for a new member at the end of the class

## Main results

* `DeclaredClass.isMemberPlace_iff` — when the place that is found is one of them
-/

namespace WebForms

open Text

/-! ### Sources in pieces -/

/-- A piece of source: a character of code, or a literal or comment as a whole. What a literal or a
comment may hold is left open, so that escapes, doubled quotes and interpolated code are covered; a
comment behind two slashes ends with its line. -/
inductive SourcePiece where
  | code (c : Char)
  | string (text : List Char)
  | character (text : List Char)
  | comment (text : List Char)
  | lineComment (text : List Char) (inLine : '\n' ∉ text)

namespace SourcePiece

/-- The piece as it stands in the source. -/
def source : SourcePiece → List Char
  | code c => [c]
  | string text => '"' :: text ++ ['"']
  | character text => '\'' :: text ++ ['\'']
  | comment text => '/' :: '*' :: text ++ ['*', '/']
  | lineComment text _ => '/' :: '/' :: text

/-- What the piece has of code. -/
def code? : SourcePiece → Option Char
  | code c => some c
  | _ => none

/-- The piece is white space between tokens. -/
def IsBlank (p : SourcePiece) : Prop := ∃ c, p = code c ∧ Text.isBlank c

/-- The text of pieces in turn. -/
def sourceAll (ps : List SourcePiece) : List Char := ps.flatMap source

/-- The code of pieces in turn, without literals and comments. -/
def codeAll (ps : List SourcePiece) : List Char := ps.filterMap code?

variable {ps qs : List SourcePiece} {before gap : List Char}

@[simp] theorem sourceAll_append (ps qs : List SourcePiece) :
    sourceAll (ps ++ qs) = sourceAll ps ++ sourceAll qs :=
  List.flatMap_append

@[simp] theorem codeAll_append (ps qs : List SourcePiece) :
    codeAll (ps ++ qs) = codeAll ps ++ codeAll qs :=
  List.filterMap_append

theorem codeAll_map_code (cs : List Char) : codeAll (cs.map code) = cs := by
  induction cs with
  | nil => rfl
  | cons c cs ih => exact congrArg (c :: ·) ih

theorem sourceAll_singleton (p : SourcePiece) : sourceAll [p] = p.source :=
  List.append_nil _

/-- White space between tokens is code. -/
theorem codeAll_eq_sourceAll (blanks : ∀ p ∈ ps, p.IsBlank) : codeAll ps = sourceAll ps := by
  induction ps with
  | nil => rfl
  | cons p ps ih =>
    obtain ⟨c, rfl, -⟩ := blanks p List.mem_cons_self
    exact congrArg (c :: ·) (ih fun q hq => blanks q (List.mem_cons_of_mem _ hq))

theorem isBlank_of_mem_sourceAll (blanks : ∀ p ∈ ps, p.IsBlank) :
    ∀ d ∈ sourceAll ps, Text.isBlank d := by
  intro d hd
  obtain ⟨p, hp, hd⟩ := List.mem_flatMap.mp hd
  obtain ⟨c, rfl, blank⟩ := blanks p hp
  rwa [List.mem_singleton.mp hd]

/-- A piece that ends with something else than white space does not end white space. -/
private theorem not_isBlank_of_ends {front body : List Char} {c g : Char}
    (split : front ++ (body ++ [c]) = before ++ (gap ++ [g])) (solid : ¬ Text.isBlank c) :
    ¬ Text.isBlank g := by
  rw [← List.append_assoc, ← List.append_assoc] at split
  rwa [← (List.append_singleton_inj.mp split).2]

/-- White space in a comment behind slashes does not begin at the start of a line. -/
private theorem not_atLine_of_lineComment {front text : List Char} (inLine : '\n' ∉ text)
    (split : front ++ '/' :: '/' :: text = before ++ gap) (blank : ∀ d ∈ gap, Text.isBlank d) :
    ¬ (before = [] ∨ before.getLast? = some '\n') := by
  obtain ⟨inner, rfl, rest⟩ | ⟨outer, -, rfl⟩ := List.append_eq_append_iff.mp split
  · -- The white space begins in the comment, which has slashes in front and no line feed.
    cases inner with
    | nil =>
      obtain rfl : '/' :: '/' :: text = gap := rest
      exact absurd (blank '/' List.mem_cons_self) (by decide)
    | cons c inner =>
      rintro (none | feed)
      · simp at none
      · rw [List.getLast?_append_of_ne_nil _ (List.cons_ne_nil c inner)] at feed
        have mem : '\n' ∈ '/' :: '/' :: text :=
          rest ▸ List.mem_append_left gap (List.mem_of_getLast? feed)
        simp [inLine] at mem
  · exact absurd (blank '/' (by simp)) (by decide)

/-- White space at the end of pieces that begins at the start of a line, or is all there is, is not
white space of a literal or a comment. -/
theorem exists_append_of_sourceAll (split : sourceAll ps = before ++ gap)
    (blank : ∀ d ∈ gap, Text.isBlank d)
    (atLine : gap = [] ∨ before = [] ∨ before.getLast? = some '\n') :
    ∃ inner rest, ps = inner ++ rest ∧ (∀ p ∈ rest, p.IsBlank) ∧ sourceAll inner = before := by
  -- The pieces are taken off from the end, as long as white space is left.
  induction ps using List.reverseRecOn generalizing gap with
  | nil => exact ⟨[], [], rfl, nofun, (List.append_eq_nil_iff.mp split.symm).1.symm⟩
  | append_singleton ps p ih =>
    obtain rfl | ⟨gap, g, rfl⟩ := gap.eq_nil_or_concat'
    · exact ⟨ps ++ [p], [], (List.append_nil _).symm, nofun, by rw [split, List.append_nil]⟩
    have last : Text.isBlank g := blank g (by simp)
    have starts : before = [] ∨ before.getLast? = some '\n' := atLine.resolve_left (by simp)
    rw [sourceAll_append, sourceAll_singleton] at split
    cases p with
    | code c =>
      rw [source, ← List.append_assoc] at split
      obtain ⟨front, rfl⟩ := List.append_singleton_inj.mp split
      obtain ⟨inner, rest, rfl, blanks, eq⟩ :=
        ih front (fun d hd => blank d (List.mem_append_left _ hd)) (.inr starts)
      refine ⟨inner, rest ++ [code c], by rw [List.append_assoc], ?_, eq⟩
      intro p hp
      obtain hp | hp := List.mem_append.mp hp
      · exact blanks p hp
      · exact ⟨c, List.mem_singleton.mp hp, last⟩
    | string text => exact absurd last (not_isBlank_of_ends split (by decide))
    | character text => exact absurd last (not_isBlank_of_ends split (by decide))
    | comment text =>
      have ends : source (comment text) = ('/' :: '*' :: text ++ ['*']) ++ ['/'] := by simp [source]
      rw [ends] at split
      exact absurd last (not_isBlank_of_ends split (by decide))
    | lineComment text inLine => exact absurd starts (not_atLine_of_lineComment inLine split blank)

/-- Braces in literals and comments make no difference when each of these is balanced by itself. -/
theorem closes_sourceAll {depth : Nat} (code : Closes depth (codeAll ps))
    (others : ∀ p ∈ ps, p.code? = none → Balanced p.source) : Closes depth (sourceAll ps) := by
  induction ps generalizing depth with
  | nil => exact code
  | cons p ps ih =>
    have rest {depth : Nat} (code : Closes depth (codeAll ps)) : Closes depth (sourceAll ps) :=
      ih code fun q hq => others q (List.mem_cons_of_mem p hq)
    cases p with
    | code c =>
      change Closes depth (c :: codeAll ps) at code
      change Closes depth (c :: sourceAll ps)
      by_cases opens : c = '\x7b'
      · subst opens
        exact closes_open_iff.mpr (rest (closes_open_iff.mp code))
      by_cases closes : c = '\x7d'
      · subst closes
        obtain ⟨outer, rfl, behind⟩ := closes_close_iff.mp code
        exact closes_close_iff.mpr ⟨outer, rfl, rest behind⟩
      · exact (closes_other_iff opens closes).mpr (rest ((closes_other_iff opens closes).mp code))
    | string | character | comment | lineComment =>
      exact (others _ List.mem_cons_self rfl).closes_append_iff.mpr (rest code)

end SourcePiece

open SourcePiece

/-! ### Classes -/

/-- A source around the declaration of a class. The keyword and the name of the class are words of
the code with white space or comments between them, and the braces of its body that are code are
balanced. -/
structure DeclaredClass (name : List Char) where
  front : List SourcePiece
  gap : List SourcePiece
  header : List SourcePiece
  body : List SourcePiece
  back : List SourcePiece
  startsWord : (sourceAll front).getLast?.all (! isWordChar ·)
  spaced : gap ≠ [] ∧ ∀ c ∈ codeAll gap, isBlank c
  endsWord : (sourceAll header ++ ['\x7b']).head?.all (! isWordChar ·)
  balanced : Balanced (codeAll body)

namespace DeclaredClass

variable {name : List Char}

/-- The source up to the name of the class. -/
def declaration (c : DeclaredClass name) : List Char :=
  sourceAll c.front ++ "class".toList ++ sourceAll c.gap ++ name

/-- The source up to the brace that opens the body. -/
def upToBody (c : DeclaredClass name) : List Char :=
  c.declaration ++ sourceAll c.header ++ ['\x7b']

/-- The source in front of the brace that closes the body. -/
def upToEnd (c : DeclaredClass name) : List Char := c.upToBody ++ sourceAll c.body

/-- All of the source. -/
def source (c : DeclaredClass name) : List Char := c.upToEnd ++ '\x7d' :: sourceAll c.back

/-- The offset is in the body of the class, in no literal, comment or inner group, and only white
space stands between it and the brace that closes the body. -/
def IsMemberPlace (c : DeclaredClass name) (offset : Nat) : Prop :=
  ∃ inner rest, c.body = inner ++ rest ∧ (∀ p ∈ rest, p.IsBlank) ∧ Balanced (codeAll inner) ∧
    offset = byteLength (c.upToBody ++ sourceAll inner)

/-- All braces counted, those in literals and comments too, the first one behind the first
declaration of the name, which may stand in one of them too, is closed where the class ends. -/
def EndsByCount (c : DeclaredClass name) : Prop :=
  ∃ declared lead inner, c.upToEnd = declared ++ lead ++ '\x7b' :: inner ∧
    declarationEnd? Language.cSharp.classSyntax name c.source = some declared.length ∧
    '\x7b' ∉ lead ∧ Balanced inner

/-- White space in front of the end of the class is in its body. -/
theorem exists_body_eq (c : DeclaredClass name) {before gap : List Char}
    (split : c.upToEnd = before ++ gap) (blank : ∀ d ∈ gap, isBlank d) :
    ∃ inside, before = c.upToBody ++ inside ∧ sourceAll c.body = inside ++ gap := by
  obtain ⟨inside, rfl, body⟩ | ⟨outside, upTo, rfl⟩ := List.append_eq_append_iff.mp split
  · exact ⟨inside, rfl, body⟩
  · -- The brace that opens the body is no white space.
    obtain rfl | ⟨outside, d, rfl⟩ := outside.eq_nil_or_concat'
    · exact ⟨[], by rw [upTo]; simp, rfl⟩
    · rw [upToBody, ← List.append_assoc] at upTo
      obtain rfl := List.singleton_inj.mp (List.append_inj_right' upTo rfl)
      exact absurd (blank '\x7b' (by simp)) (by decide)

/-- White space in front of the end of the class begins at a place for a new member if it begins at
the start of a line, and so does no white space. -/
theorem isMemberPlace_of_upToEnd (c : DeclaredClass name) {before gap : List Char}
    (split : c.upToEnd = before ++ gap) (blank : ∀ d ∈ gap, isBlank d)
    (atLine : gap = [] ∨ before = [] ∨ before.getLast? = some '\n') :
    c.IsMemberPlace (byteLength before) := by
  obtain ⟨inside, rfl, body⟩ := c.exists_body_eq split blank
  have atLine' : gap = [] ∨ inside = [] ∨ inside.getLast? = some '\n' := by
    refine atLine.imp_right fun starts => ?_
    obtain rfl | nonempty := eq_or_ne inside []
    · exact .inl rfl
    · rw [List.getLast?_append_of_ne_nil _ nonempty] at starts
      exact .inr (starts.resolve_left (by simp [nonempty]))
  obtain ⟨inner, rest, pieces, blanks, rfl⟩ := exists_append_of_sourceAll body blank atLine'
  refine ⟨inner, rest, pieces, blanks, ?_, rfl⟩
  have balanced := c.balanced
  rw [pieces, codeAll_append] at balanced
  have brace {d : Char} (solid : ¬ isBlank d) : d ∉ codeAll rest := fun mem =>
    solid (isBlank_of_mem_sourceAll blanks d (by rwa [← codeAll_eq_sourceAll blanks]))
  exact balanced.of_append (brace (by decide)) (brace (by decide))

/-- The place that is found is one at the end of the class if and only if the class ends there by
count. -/
theorem placed_iff_endsByCount {className : String}
    (c : DeclaredClass (unqualifiedName className).toList) :
    (∃ offset, Language.cSharp.insertionOffset? (String.ofList c.source) className = some offset ∧
      c.IsMemberPlace offset) ↔ c.EndsByCount := by
  constructor
  · rintro ⟨offset, found, inner, rest, body, blanks, -, place⟩
    obtain ⟨declared, lead, nested, back, split, named, first, balanced, offset⟩ :=
      Language.insertionOffset?_cSharp_eq_some_iff.mp found
    refine ⟨declared, lead, nested, ?_, named, first, balanced⟩
    obtain ⟨before, gap, front, blank, -, taken⟩ :=
      exists_blankLineStart_eq (declared ++ lead ++ '\x7b' :: nested) ('\x7d' :: back)
    rw [← split] at taken
    -- Both places have as many bytes in front of them, so they are the same one.
    have body' : c.source = c.upToBody ++ sourceAll inner ++
        (sourceAll rest ++ '\x7d' :: sourceAll c.back) := by
      rw [source, upToEnd, body, sourceAll_append]
      simp only [List.append_assoc]
    have front' : c.source = before ++ (gap ++ '\x7d' :: back) := by
      rw [split, front, List.append_assoc]
    have same : before = c.upToBody ++ sourceAll inner := by
      refine eq_of_byteLength_eq ⟨_, front'.symm⟩ ⟨_, body'.symm⟩ ?_
      rw [← place, ← offset, taken]
    -- The white space behind them ends at the same brace.
    rw [body', same, List.append_cancel_left_eq] at front'
    have ends {space behind : List Char} (blank : ∀ d ∈ space, isBlank d) :
        (space ++ '\x7d' :: behind).takeWhile isBlank = space :=
      takeWhile_append_cons blank (by decide) behind
    have gap' : sourceAll rest = gap := by
      rw [← ends (isBlank_of_mem_sourceAll blanks), front', ends blank]
    rw [front, same, ← gap', upToEnd, body, sourceAll_append, List.append_assoc]
  · rintro ⟨declared, lead, nested, split, named, first, balanced⟩
    obtain ⟨before, gap, front, blank, atLine, taken⟩ :=
      exists_blankLineStart_eq c.upToEnd ('\x7d' :: sourceAll c.back)
    refine ⟨byteLength before, ?_, c.isMemberPlace_of_upToEnd front blank atLine⟩
    refine Language.insertionOffset?_cSharp_eq_some_iff.mpr
      ⟨declared, lead, nested, sourceAll c.back, ?_, named, first, balanced, ?_⟩
    · rw [source, split]
    · rw [← split]
      exact congrArg byteLength taken

/-- When counting begins with the brace that opens the body, the body ends by count if and only if
it is balanced with its literals and comments. -/
theorem endsByCount_iff_balanced (c : DeclaredClass name)
    (first : declarationEnd? Language.cSharp.classSyntax name c.source =
      some c.declaration.length)
    (plain : '\x7b' ∉ sourceAll c.header) :
    c.EndsByCount ↔ Balanced (sourceAll c.body) := by
  have own : c.upToEnd =
      c.declaration ++ sourceAll c.header ++ '\x7b' :: sourceAll c.body := by
    simp [upToEnd, upToBody]
  constructor
  · rintro ⟨declared, lead, inner, split, named, outside, balanced⟩
    have length : c.declaration.length = declared.length :=
      Option.some.inj (first.symm.trans named)
    have solid {front : List Char} (outside : '\x7b' ∉ front) (back : List Char) :
        (front ++ '\x7b' :: back).takeWhile (· != '\x7b') = front :=
      takeWhile_append_cons (fun d hd => by simpa using ne_of_mem_of_not_mem hd outside)
        (by decide) back
    rw [own, List.append_assoc, List.append_assoc] at split
    obtain ⟨-, split⟩ := List.append_inj split length
    have header : sourceAll c.header = lead := by
      rw [← solid plain, split, solid outside]
    rw [header, List.append_cancel_left_eq, List.cons.injEq] at split
    rwa [split.2]
  · intro balanced
    exact ⟨c.declaration, sourceAll c.header, sourceAll c.body, own, first, plain, balanced⟩

/-- The place found for a new member is one at the end of the body if and only if the class ends
there by count, over literals and comments as well. For a class whose own declaration is found, and
whose own brace is the first one behind it, the latter says that the body is balanced with its
literals and comments, as it is when each of these is balanced by itself. -/
theorem isMemberPlace_iff {className : String}
    (c : DeclaredClass (unqualifiedName className).toList) :
    ((∃ offset,
        Language.cSharp.insertionOffset? (String.ofList c.source) className = some offset ∧
          c.IsMemberPlace offset) ↔ c.EndsByCount) ∧
      (declarationEnd? Language.cSharp.classSyntax (unqualifiedName className).toList c.source =
          some c.declaration.length → '\x7b' ∉ sourceAll c.header →
        (c.EndsByCount ↔ Balanced (sourceAll c.body))) ∧
      ((∀ p ∈ c.body, p.code? = none → Balanced p.source) → Balanced (sourceAll c.body)) :=
  ⟨c.placed_iff_endsByCount, c.endsByCount_iff_balanced, closes_sourceAll c.balanced⟩

/-- A class whose only member holds a string literal. -/
def ofLiteral (text : List Char) : DeclaredClass (unqualifiedName "Site.Default").toList where
  front := []
  gap := [.code ' ']
  header := [.code ' ']
  body := " string s = ".toList.map .code ++ .string text :: "; ".toList.map .code
  back := []
  startsWord := rfl
  spaced := ⟨List.cons_ne_nil _ _, List.forall_mem_singleton.mpr rfl⟩
  endsWord := by decide
  balanced := by
    rw [codeAll_append, codeAll_map_code]
    change Balanced (" string s = ".toList ++ codeAll ("; ".toList.map .code))
    rw [codeAll_map_code]
    decide

/-- Braces that are balanced within the literal do no harm. -/
theorem isMemberPlace_iff_placeholder :
    ∃ offset, Language.cSharp.insertionOffset?
        "class Default \x7b string s = \"\x7b0\x7d\"; \x7d" "Site.Default" = some offset ∧
          (ofLiteral "\x7b0\x7d".toList).IsMemberPlace offset := by
  obtain ⟨placed, byCount, balanced⟩ := isMemberPlace_iff (ofLiteral "\x7b0\x7d".toList)
  refine placed.mpr ((byCount (by decide +kernel) (by decide)).mpr (balanced ?_))
  intro p hp other
  simp only [ofLiteral, List.mem_append, List.mem_cons, List.mem_map] at hp
  obtain ⟨c, -, rfl⟩ | rfl | ⟨c, -, rfl⟩ := hp
  · exact nomatch other
  · decide
  · exact nomatch other

/-- A brace in a literal is taken for the end of the class. -/
theorem not_isMemberPlace_literal :
    ¬ ∀ offset, Language.cSharp.insertionOffset? "class Default \x7b string s = \"\x7d\"; \x7d"
        "Site.Default" = some offset → (ofLiteral ['\x7d']).IsMemberPlace offset := by
  intro places
  have found : Language.cSharp.insertionOffset? "class Default \x7b string s = \"\x7d\"; \x7d"
      "Site.Default" = some 28 := by
    decide +kernel
  have ends := (ofLiteral ['\x7d']).placed_iff_endsByCount.mp ⟨28, found, places 28 found⟩
  have balanced := ((ofLiteral ['\x7d']).endsByCount_iff_balanced (by decide +kernel)
    (by decide)).mp ends
  exact absurd balanced (by decide)

end DeclaredClass

end WebForms
