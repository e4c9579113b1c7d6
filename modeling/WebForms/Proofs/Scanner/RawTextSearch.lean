import WebForms.Proofs.Scanner.RawText
import WebForms.Proofs.Text.LetterCase
import WebForms.Proofs.Text.Trimming

/-!
# The search for the end of raw text

Raw text is searched for the closing tag of its element among its latest characters. A server block
in it is left out, but for its first angle bracket, which has been read before it was known that a
block begins there. What is searched is therefore the text outside of server blocks with these
brackets, and of that no more than the length of the search; while raw text goes on, the scanner
holds just that.

## Main definitions

* `OpenTag.Calls` — what follows the slash of a closing tag is the name of the element
* `Scanner.Keeps`, `Scanner.kept` — the characters that are searched
* `Scanner.Dwells` — raw text goes on through some characters

## Main results

* `Scanner.Begins.searches` — what the scanner holds while raw text goes on
-/

namespace WebForms

/-! ### Names in closing tags -/

/-- The text is the name of the element, up to letter case, with white space around it. -/
def OpenTag.Calls (e : OpenTag) (text : List Char) : Prop :=
  ∃ before name behind, text = before ++ name ++ behind ∧ (∀ c ∈ before ++ behind, Text.isBlank c) ∧
    Text.sameName (String.ofList name) e.name.localName

namespace OpenTag

variable {e : OpenTag} {text : List Char}

/-- The letters in the names of elements with raw text. -/
def rawNameLetters : List Char := ['c', 'e', 'i', 'l', 'p', 'r', 's', 't', 'y']

/-- What agrees with the name of an element with raw text is made of these letters. -/
theorem toLower_mem_of_sameName (raw : e.name.isRawText) {name : List Char}
    (same : Text.sameName (String.ofList name) e.name.localName) :
    name ≠ [] ∧ ∀ c ∈ name, c.toLower ∈ rawNameLetters := by
  obtain ⟨-, found⟩ := Bool.and_eq_true_iff.mp raw
  obtain ⟨known, mem, agrees⟩ := List.any_eq_true.mp found
  have letters : ∀ known ∈ TagName.rawTextNames,
      known.toList ≠ [] ∧ known.toList.all (·.toLower ∈ rawNameLetters) := by
    decide
  have lower : name.map Char.toLower = known.toList.map Char.toLower := by
    rw [Text.sameName_iff] at same agrees
    rw [← Text.toList_toLower, agrees, ← same, Text.toList_toLower, String.toList_ofList]
  constructor
  · rintro rfl
    exact (letters known mem).1 (List.map_eq_nil_iff.mp lower.symm)
  · intro c hc
    have spelled : c.toLower ∈ known.toList.map Char.toLower := lower ▸ List.mem_map_of_mem hc
    obtain ⟨l, hl, eq⟩ := List.mem_map.mp spelled
    exact eq ▸ of_decide_eq_true (List.all_eq_true.mp (letters known mem).2 l hl)

/-- These letters are letters, and no white space. -/
theorem of_mem_rawNameLetters {c : Char} (h : c ∈ rawNameLetters) :
    c.isAlpha = true ∧ Text.isBlank c = false := by
  have all : rawNameLetters.all fun c => c.isAlpha && !Text.isBlank c := by decide
  simpa using List.all_eq_true.mp all c h

/-- What calls an element with raw text holds neither angle brackets nor other punctuation. -/
theorem Calls.not_mem (h : e.Calls text) (raw : e.name.isRawText) {c : Char}
    (other : c.isAlpha = false) (visible : Text.isBlank c = false) : c ∉ text := by
  obtain ⟨before, name, behind, rfl, blank, same⟩ := h
  intro hc
  have apart : c ∈ before ++ behind ∨ c ∈ name := by
    simp only [List.mem_append] at hc ⊢
    tauto
  rcases apart with hc | hc
  · rw [blank c hc] at visible
    exact nomatch visible
  · have letter := (toLower_mem_of_sameName raw same).2 c hc
    have self : c.toLower = c := (Text.toLower_eq_iff other).mpr rfl
    rw [self] at letter
    rw [(of_mem_rawNameLetters letter).1] at other
    exact nomatch other

/-- The scanner compares a name without the white space around it. -/
theorem calls_iff (raw : e.name.isRawText) :
    e.Calls text ↔
      Text.sameName (String.ofList (Text.trimChars text)) e.name.localName := by
  constructor
  · rintro ⟨before, name, behind, rfl, blank, same⟩
    obtain ⟨some', letters⟩ := toLower_mem_of_sameName raw same
    have solid : ∀ c ∈ name, Text.isBlank c = false := by
      intro c hc
      rw [← Text.isBlank_toLower]
      exact (of_mem_rawNameLetters (letters c hc)).2
    rwa [Text.trimChars_append blank solid some']
  · intro same
    obtain ⟨before, behind, split, blank⟩ := Text.exists_eq_append_trimChars text
    exact ⟨before, _, behind, split, blank, same⟩

end OpenTag

/-- What is read as the name in a closing tag stands behind its opening. -/
theorem eq_append_of_closingName? {passed cs name : List Char}
    (h : closingName? passed cs = some name) :
    ∃ read rest, cs = read ++ '/' :: '<' :: rest ∧ name = read.reverse ++ passed := by
  fun_induction closingName? passed cs with
  | case1 passed rest => exact ⟨[], rest, rfl, (Option.some.inj h).symm⟩
  | case2 passed c cs other ih =>
    obtain ⟨read, rest, rfl, rfl⟩ := ih h
    exact ⟨c :: read, rest, rfl, by simp⟩
  | case3 => cases h

/-- A text without angle brackets behind the opening of a closing tag is read as the name. -/
theorem closingName?_append {passed read rest : List Char} (plain : '<' ∉ read) :
    closingName? passed (read ++ '/' :: '<' :: rest) = some (read.reverse ++ passed) := by
  induction read generalizing passed with
  | nil => rfl
  | cons c cs ih =>
    have plain' : '<' ∉ cs := fun mem => plain (List.mem_cons_of_mem c mem)
    rw [List.cons_append, closingName?]
    · rw [ih plain']
      simp
    · rintro tail rfl
      cases cs with
      | nil => exact nofun
      | cons d ds =>
        intro eq
        exact plain (by simp [(List.cons.inj eq).1])

/-! ### One character of raw text -/

namespace Skeleton

variable {c : Char} {here : Position} {s u : Skeleton}

/-- Raw text begins with nothing to be searched. -/
theorem Turn.begins (turn : Turn c here s u) (consistent : s.Consistent) (before : ¬ s.InRawText)
    (begun : u.state = .rawText) : u.rawTail = [] ∧ u.rawLt = none := by
  have tag {stop : Position} {w v : Skeleton} (e : TagEnd stop w v) (raw : v.state = .rawText) :
      v.rawTail = [] ∧ v.rawLt = none := by
    cases e with
    | raw => exact ⟨rfl, rfl⟩
    | leaf | scope | nameless | closing => exact nomatch raw
  -- What ends a server block takes up raw text only if the block stands in it.
  have takeUp {w w' : Skeleton} {p : Pending} {ps : List Pending} (stays : Stays here s w)
      (hp : w.pending = p :: ps) (resume : w'.resume = w.resume)
      (raw : (w'.takeUp ps).state = .rawText) : False := by
    have consistent' := stays.consistent consistent
    have inside : (w'.takeUp ps).InRawText := .inl raw
    rw [inRawText_takeUp, resume, ← inRawText_iff_of_suits (consistent'.suits hp)] at inside
    exact before ((stays.inRawText_iff consistent).mp inside)
  cases turn with
  | text hs =>
    have free : s.state = .rawText := begun
    rw [hs] at free
    exact nomatch free
  | opening hs hlt start suits =>
    obtain rfl : _ = ScannerState.rawText := begun
    exact absurd suits not_suits_rawText
  | suspend hs => exact nomatch begun
  | stay stays => exact absurd ((stays.inRawText_iff consistent).mp (.inl begun)) before
  | endTag stays hlt e => exact tag e begun
  | @cutTag w v angle stays hlt e =>
    have begun' : v.state = .rawText := begun
    have ended := tag e begun'
    exact ended
  | endPlain stays hlt hp | endDirective stays hlt hp | endBlock stays hlt hp
  | dropBlock stays hlt hp => exact (takeUp stays hp rfl begun).elim
  | rawChar hs | rawAngle hs | endRaw hs => exact absurd (.inl hs) before

/-- A character in a server block inside raw text leaves alone what is searched. -/
theorem Turn.inBlock (turn : Turn c here s u) (consistent : s.Consistent) (raw : s.InRawText)
    (block : s.state ≠ .rawText) :
    u.InRawText ∧ u.rawTail = s.rawTail ∧ u.rawLt = s.rawLt ∧ u.openElements = s.openElements ∧
      (u.state = .rawText → u.pendingLt = none) := by
  have takeUp {w w' : Skeleton} {p : Pending} {ps : List Pending} (stays : Stays here s w)
      (hp : w.pending = p :: ps) (resume : w'.resume = w.resume) : (w'.takeUp ps).InRawText := by
    have consistent' := stays.consistent consistent
    rw [inRawText_takeUp, resume, ← inRawText_iff_of_suits (consistent'.suits hp)]
    exact (stays.inRawText_iff consistent).mpr raw
  cases turn with
  | text hs | opening hs => exact absurd raw (consistent.not_inRawText hs)
  | suspend hs =>
    refine ⟨.inr (List.mem_cons.mpr (raw.imp_left Eq.symm)), rfl, rfl, rfl, nofun⟩
  | stay stays =>
    refine ⟨(stays.inRawText_iff consistent).mpr raw, stays.rawTail, stays.rawLt,
      stays.openElements, fun state => ?_⟩
    obtain lt | ⟨-, inQuotes⟩ := stays.lt
    · exact lt
    · rw [state] at inQuotes
      exact inQuotes.elim
  | endTag stays hlt e | cutTag angle stays hlt e =>
    -- A tag is never read inside raw text.
    have inside := (stays.inRawText_iff consistent).mpr raw
    have consistent' := stays.consistent consistent
    cases e with
    | leaf hp | scope hp | raw hp | nameless hp | closing hp =>
      exact absurd inside (consistent'.not_inRawText_of_pending hp rfl)
  | endPlain stays hlt hp | endDirective stays hlt hp | endBlock stays hlt hp
  | dropBlock stays hlt hp =>
    exact ⟨takeUp stays hp rfl, stays.rawTail, stays.rawLt, stays.openElements, fun _ => hlt⟩
  | rawChar hs | rawAngle hs | endRaw hs => exact absurd hs block

end Skeleton

namespace Scanner

variable {t u : Scanner} {c : Char} {e : OpenTag} {es : List OpenTag}

/-- The character is read as raw text, and not as part of a server block. -/
def Keeps (t : Scanner) (c : Char) : Prop := t.state = .rawText ∧ (t.pendingLt = none ∨ c ≠ '%')

instance : DecidablePred t.Keeps := fun _ => inferInstanceAs (Decidable (_ ∧ _))

/-- The angle bracket that comes next ends the raw text of `e`. -/
def Closes (t : Scanner) (e : OpenTag) : Prop :=
  ({ t with rawTail := ('>' :: t.rawTail).take rawTailLength } : Scanner).tailCloses e

/-- Raw text goes on with the character `c`. -/
structure KeepsOn (t u : Scanner) (c : Char) : Prop where
  state : u.state = .rawText
  tail : u.rawTail = (c :: t.rawTail).take rawTailLength
  lt : u.rawLt = if c = '<' then some t.position else t.rawLt
  openElements : u.openElements = t.openElements
  held : u.pendingLt.isSome ↔ c = '<'

/-- The raw text of `e` has been ended by a closing tag that covers `span`. -/
def EndsElement (t : Scanner) (e : OpenTag) (span : Span) : Prop :=
  t.state = .free ∧ t.events.back? = some (.endTag e.name span)

theorem inRawText_of_ne (other : t.pendingLt = none ∨ c ≠ '%') :
    t.inRawText c = ({ t with pendingLt := none } : Scanner).inRawChar c := by
  unfold inRawText
  cases hlt : t.pendingLt with
  | none =>
    simp only
    rw [← hlt]
  | some lt =>
    have notPercent : c ≠ '%' := other.resolve_left (by rw [hlt]; exact nofun)
    simp only [if_neg notPercent]

/-- A character other than angle brackets, or a closing bracket that closes nothing, is kept. -/
theorem inRawChar_of_open (angle : c ≠ '<') (opened : t.openElements = e :: es)
    (open' : c = '>' → ¬ t.Closes e) :
    t.inRawChar c = { t with rawTail := (c :: t.rawTail).take rawTailLength } := by
  unfold inRawChar
  simp only [if_neg angle]
  split_ifs with close
  · split
    next nothing => exact nomatch opened.symm.trans nothing
    next e' es' found =>
      obtain ⟨rfl, rfl⟩ := List.cons.inj (opened.symm.trans found)
      subst close
      exact if_neg (open' rfl)
  · rfl

theorem inRawChar_of_closes (opened : t.openElements = e :: es) (closes : t.Closes e) :
    t.inRawChar '>' = ({ t with
      rawTail := ('>' :: t.rawTail).take rawTailLength } : Scanner).endRawText e
        (t.position.advance '>') := by
  unfold inRawChar
  simp only [if_neg (show '>' ≠ '<' by decide), if_true]
  split
  next nothing => exact nomatch opened.symm.trans nothing
  next e' es' found =>
    obtain ⟨rfl, rfl⟩ := List.cons.inj (opened.symm.trans found)
    exact if_pos closes

theorem endRawText_of_lt {lt stop : Position} (hlt : t.rawLt = some lt) :
    (t.endRawText e stop).EndsElement e ⟨lt, stop⟩ := by
  unfold endRawText EndsElement
  rw [hlt, Option.getD_some, Option.isSome_some, if_pos rfl]
  exact ⟨rfl, Array.back?_push ..⟩

/-- What is read as raw text is searched from then on, unless it ends the raw text. -/
theorem keepsOn_advance (keeps : t.Keeps c) (opened : t.openElements = e :: es)
    (open' : c = '>' → ¬ t.Closes e) : t.KeepsOn (t.advance c) c := by
  obtain ⟨raw, other⟩ := keeps
  have read : t.step c = t.inRawText c := by simp only [step, raw]
  unfold advance
  rw [read, inRawText_of_ne other]
  by_cases angle : c = '<'
  · subst angle
    exact ⟨raw, rfl, rfl, rfl, ⟨fun _ => rfl, fun _ => rfl⟩⟩
  · have kept := inRawChar_of_open (t := { t with pendingLt := none }) angle opened open'
    rw [kept]
    exact ⟨raw, rfl, (if_neg angle).symm, rfl, iff_of_false Bool.false_ne_true angle⟩

/-- An angle bracket that ends raw text records the closing tag, from the latest opening bracket. -/
theorem endsElement_advance (raw : t.state = .rawText) (opened : t.openElements = e :: es)
    {lt : Position} (hlt : t.rawLt = some lt) (closes : t.Closes e) :
    (t.advance '>').EndsElement e ⟨lt, t.position.advance '>'⟩ := by
  have read : t.step '>' = t.inRawText '>' := by simp only [step, raw]
  have ended := inRawChar_of_closes (t := { t with pendingLt := none }) opened closes
  unfold EndsElement advance
  rw [read, inRawText_of_ne (.inr (by decide)), ended]
  exact endRawText_of_lt (t := { t with pendingLt := none, rawTail := _ }) hlt

/-- A character that is not kept belongs to a server block, and leaves what is searched alone. -/
theorem Reached.skips (h : t.Reached) (raw : t.skeleton.InRawText) (skipped : ¬ t.Keeps c) :
    (t.advance c).skeleton.InRawText ∧ (t.advance c).rawTail = t.rawTail ∧
      (t.advance c).rawLt = t.rawLt ∧ (t.advance c).openElements = t.openElements ∧
      ((t.advance c).state = .rawText → (t.advance c).pendingLt = none) := by
  by_cases hs : t.state = .rawText
  · -- The character opens the server block.
    have held : t.pendingLt ≠ none := fun none => skipped ⟨hs, .inl none⟩
    have percent : c = '%' := by
      by_contra other
      exact skipped ⟨hs, .inr other⟩
    obtain ⟨lt, hlt⟩ := Option.ne_none_iff_exists'.mp held
    have read : t.step c = ({ t with
        pendingLt := none, resume := .rawText :: t.resume } : Scanner).beginBlock lt
          (t.position.advance c) := by
      simp only [step, hs, inRawText, hlt, if_pos percent]
    unfold Scanner.advance
    rw [read]
    refine ⟨.inr List.mem_cons_self, rfl, rfl, rfl, ?_⟩
    rintro ⟨⟩
  · exact (h.turn c).inBlock h.consistent raw hs

/-! ### Raw text that goes on -/

/-- Raw text, with the server blocks in it, goes on through all of `ds`. -/
def Dwells (t : Scanner) (ds : List Char) : Prop :=
  ∀ read, read <+: ds → (t.advanceAll read).skeleton.InRawText

/-- The characters of `ds` that are kept, each with its place, latest first. -/
def kept (t : Scanner) (ds : List Char) : List (Char × Position) := go t [] ds
where
  /-- The characters kept, in front of those kept before. -/
  go (t : Scanner) (before : List (Char × Position)) : List Char → List (Char × Position)
    | [] => before
    | c :: cs => go (t.advance c) (if t.Keeps c then (c, t.position) :: before else before) cs

section

variable {ds : List Char}

theorem advanceAll_concat (t : Scanner) (ds : List Char) (c : Char) :
    t.advanceAll (ds ++ [c]) = (t.advanceAll ds).advance c :=
  t.advanceAll_append ds [c]

instance (t : Scanner) : Decidable t.skeleton.InRawText := inferInstanceAs (Decidable (_ ∨ _))

instance (t : Scanner) (ds : List Char) : Decidable (t.Dwells ds) :=
  decidable_of_iff (∀ read ∈ ds.inits, (t.advanceAll read).skeleton.InRawText) <| by
    simp only [List.mem_inits, Dwells]

theorem Dwells.init (h : t.Dwells (ds ++ [c])) : t.Dwells ds :=
  fun read before => h read (before.trans (List.prefix_append ds [c]))

theorem Dwells.here (h : t.Dwells ds) : (t.advanceAll ds).skeleton.InRawText :=
  h ds (List.prefix_refl ds)

theorem Dwells.concat (h : t.Dwells ds) (raw : (t.advanceAll (ds ++ [c])).skeleton.InRawText) :
    t.Dwells (ds ++ [c]) := by
  intro read before
  rcases List.prefix_concat_iff.mp before with rfl | before
  · exact raw
  · exact h read before

theorem kept_go_concat (t : Scanner) (before : List (Char × Position)) (ds : List Char) (c : Char) :
    kept.go t before (ds ++ [c]) =
      if (t.advanceAll ds).Keeps c then (c, (t.advanceAll ds).position) :: kept.go t before ds
      else kept.go t before ds := by
  induction ds generalizing t before with
  | nil => rfl
  | cons d ds ih => exact ih (t.advance d) _

theorem kept_concat_of_keeps (keeps : (t.advanceAll ds).Keeps c) :
    t.kept (ds ++ [c]) = (c, (t.advanceAll ds).position) :: t.kept ds :=
  (kept_go_concat t [] ds c).trans (if_pos keeps)

theorem kept_concat_of_skips (skips : ¬ (t.advanceAll ds).Keeps c) :
    t.kept (ds ++ [c]) = t.kept ds :=
  (kept_go_concat t [] ds c).trans (if_neg skips)

/-- Raw text that has just begun: its element is the innermost one, and nothing is searched yet. -/
structure Begins (t : Scanner) (e : OpenTag) (es : List OpenTag) : Prop where
  reached : t.Reached
  opened : t.openElements = e :: es
  tail : t.rawTail = []
  lt : t.rawLt = none

/-- What is searched are the latest characters that have been kept, and the latest angle bracket is
known. -/
structure Searches (t : Scanner) (ks : List (Char × Position)) (e : OpenTag) (es : List OpenTag) :
    Prop where
  opened : t.openElements = e :: es
  tail : t.rawTail = (ks.map Prod.fst).take rawTailLength
  lt : t.rawLt = (ks.find? fun k => k.1 = '<').map Prod.snd

/-- Where a kept character leaves raw text open, it does not close it. -/
theorem not_closes_of_inRawText (opened : t.openElements = e :: es) (keeps : t.Keeps c)
    (reached : t.Reached) (raw : (t.advance c).skeleton.InRawText) : c = '>' → ¬ t.Closes e := by
  rintro rfl closes
  have angle : '<' ∈ t.rawTail := by
    have found := List.mem_of_mem_tail (mem_of_tailCloses closes)
    simpa using List.mem_of_mem_take found
  obtain ⟨lt, hlt⟩ := Option.isSome_iff_exists.mp (reached.consistent.rawLt angle)
  have ended := endsElement_advance keeps.1 opened hlt closes
  exact (reached.advance '>').consistent.not_inRawText ended.1 raw

/-- A kept character goes on with raw text that stays open. -/
theorem Begins.keepsOn (h : t.Begins e es) (dwells : t.Dwells (ds ++ [c]))
    (opened : (t.advanceAll ds).openElements = e :: es) (keeps : (t.advanceAll ds).Keeps c) :
    (t.advanceAll ds).KeepsOn (t.advanceAll (ds ++ [c])) c := by
  have raw := dwells.here
  rw [advanceAll_concat] at raw ⊢
  exact keepsOn_advance keeps opened
    (not_closes_of_inRawText opened keeps (h.reached.advanceAll ds) raw)

theorem Begins.searches (h : t.Begins e es) (dwells : t.Dwells ds) :
    (t.advanceAll ds).Searches (t.kept ds) e es := by
  induction ds using List.reverseRecOn with
  | nil => exact ⟨h.opened, by simp [h.tail, kept, kept.go], by simp [h.lt, kept, kept.go]⟩
  | append_singleton ds c ih =>
    have before := ih dwells.init
    by_cases keeps : (t.advanceAll ds).Keeps c
    · have on := h.keepsOn dwells before.opened keeps
      rw [kept_concat_of_keeps keeps]
      refine ⟨on.openElements.trans before.opened, ?_, ?_⟩
      · rw [on.tail, before.tail]
        simp [rawTailLength, List.take_take]
      · rw [on.lt, before.lt]
        by_cases angle : c = '<'
        · simp [angle]
        · simp [angle]
    · obtain ⟨-, tail, lt, openElements, -⟩ :=
        (h.reached.advanceAll ds).skips dwells.init.here keeps
      rw [kept_concat_of_skips keeps, advanceAll_concat]
      exact ⟨openElements.trans before.opened, tail.trans before.tail, lt.trans before.lt⟩

end

end Scanner

end WebForms
