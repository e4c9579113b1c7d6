import WebForms.Proofs.Scanner.RawTextSearch

/-!
# Where raw text ends

Whether an angle bracket ends raw text is decided by a search among the latest characters outside of
server blocks, with the first angle bracket of each block left in. That search says something about
the source in front of the bracket: the closing tag starts at an angle bracket, which may be
followed by a whole server block, and then goes on with a slash and the name. This is made precise,
in both directions, and says where raw text ends and which closing tag is recorded.

## Main definitions

* `Scanner.Passes` — nothing, or a server block, lies behind an angle bracket
* `Scanner.EndsWithTag` — the source ends with a closing tag, but for its last angle bracket

## Main results

* `Scanner.endsRawText_iff` — where raw text ends, and where its closing tag starts
-/

namespace WebForms

namespace Scanner

variable {t : Scanner} {c : Char} {e : OpenTag} {es : List OpenTag} {ds : List Char}

/-! ### What is searched, in the source -/

/-- Behind an angle bracket of raw text there is nothing, or a server block, which is not left
before its end. -/
def Passes (t : Scanner) (block : List Char) : Prop :=
  block = [] ∨ ∃ inside, block = '%' :: inside ∧
    ∀ read, read <+: inside → read ≠ inside → (t.advanceAll ('%' :: read)).state ≠ .rawText

theorem advanceAll_split (t : Scanner) (front : List Char) (x : Char) (block : List Char) :
    t.advanceAll (front ++ x :: block) = (t.advanceAll (front ++ [x])).advanceAll block := by
  rw [← advanceAll_append]
  simp

theorem Dwells.take (h : t.Dwells ds) {front : List Char} (before : front <+: ds) :
    t.Dwells front :=
  fun read hread => h read (hread.trans before)

theorem Begins.keepsOn_of_dwells (h : t.Begins e es) (dwells : t.Dwells (ds ++ [c]))
    (keeps : (t.advanceAll ds).Keeps c) :
    (t.advanceAll ds).KeepsOn (t.advanceAll (ds ++ [c])) c :=
  h.keepsOn dwells (h.searches dwells.init).opened keeps

/-- A server block goes on as long as raw text is not taken up again. -/
theorem Passes.concat {block : List Char} (h : t.Passes block)
    (inside : block = [] → c = '%') (block' : block ≠ [] → (t.advanceAll block).state ≠ .rawText) :
    t.Passes (block ++ [c]) := by
  obtain rfl | ⟨rest, rfl, passes⟩ := h
  · refine .inr ⟨[], by rw [inside rfl]; rfl, fun read hread other => ?_⟩
    exact absurd (List.prefix_nil.mp hread) other
  · refine .inr ⟨rest ++ [c], rfl, fun read hread other => ?_⟩
    have before : read <+: rest := (List.prefix_concat_iff.mp hread).resolve_left other
    by_cases whole : read = rest
    · rw [whole]
      exact block' (List.cons_ne_nil _ _)
    · exact passes read before whole

/-- The latest kept character stands in the source with nothing but a server block behind it, and
that only if it is an angle bracket. -/
theorem Begins.exists_eq_append (h : t.Begins e es) (dwells : t.Dwells ds) {x : Char}
    {place : Position} {ks : List (Char × Position)} (hks : t.kept ds = (x, place) :: ks) :
    ∃ front block, ds = front ++ x :: block ∧ t.kept front = ks ∧ (t.advanceAll front).Keeps x ∧
      (t.advanceAll front).position = place ∧ (t.advanceAll (front ++ [x])).Passes block ∧
      (x ≠ '<' → block = []) ∧
      (block ≠ [] → (t.advanceAll ds).state = .rawText → (t.advanceAll ds).pendingLt = none) := by
  induction ds using List.reverseRecOn with
  | nil => exact nomatch hks
  | append_singleton ds c ih =>
    by_cases keeps : (t.advanceAll ds).Keeps c
    · rw [kept_concat_of_keeps keeps, List.cons.injEq, Prod.mk.injEq] at hks
      obtain ⟨⟨rfl, rfl⟩, rfl⟩ := hks
      exact ⟨ds, [], rfl, rfl, keeps, rfl, .inl rfl, fun _ => rfl, absurd rfl⟩
    · rw [kept_concat_of_skips keeps] at hks
      obtain ⟨front, block, rfl, hfront, keeps', place', passes, alone, held⟩ :=
        ih dwells.init hks
      obtain ⟨-, -, -, -, taken⟩ := (h.reached.advanceAll _).skips dwells.init.here keeps
      have on := h.keepsOn_of_dwells (dwells.init.take ⟨block, by simp⟩) keeps'
      -- The skipped character is the percent sign behind the bracket, or further inside the block.
      have opens : block = [] → x = '<' ∧ c = '%' := by
        rintro rfl
        have raw := on.state
        have pending : (t.advanceAll (front ++ [x])).pendingLt ≠ none :=
          fun none => keeps ⟨raw, .inl none⟩
        refine ⟨on.held.mp (Option.isSome_iff_ne_none.mpr pending), ?_⟩
        by_contra other
        exact keeps ⟨raw, .inr other⟩
      have inside : block ≠ [] → (t.advanceAll (front ++ x :: block)).state ≠ .rawText :=
        fun some' raw => keeps ⟨raw, .inl (held some' raw)⟩
      rw [advanceAll_split] at inside
      refine ⟨front, block ++ [c], by simp, hfront, keeps', place',
        passes.concat (fun nil => (opens nil).2) inside, fun other => ?_, fun _ => ?_⟩
      · exact absurd (opens (alone other)).1 other
      · rw [advanceAll_concat]
        exact taken

/-- Kept characters that are no angle brackets stand in the source one after the other. -/
theorem Begins.eq_append_of_kept (h : t.Begins e es) {text : List Char} (plain : '<' ∉ text)
    {ks : List Char} (dwells : t.Dwells ds)
    (hks : (t.kept ds).map Prod.fst = text.reverse ++ ks) :
    ∃ front, ds = front ++ text ∧ (t.kept front).map Prod.fst = ks ∧
      (text ≠ [] → (t.advanceAll front).state = .rawText) := by
  induction text using List.reverseRecOn generalizing ds with
  | nil => exact ⟨ds, (List.append_nil ds).symm, hks, absurd rfl⟩
  | append_singleton text x ih =>
    rw [List.reverse_append, List.reverse_singleton, List.singleton_append, List.cons_append] at hks
    cases hkept : t.kept ds with
    | nil =>
      rw [hkept] at hks
      exact nomatch hks
    | cons k others =>
      obtain ⟨y, place⟩ := k
      rw [hkept, List.map_cons, List.cons.injEq] at hks
      obtain ⟨rfl, hks⟩ := hks
      obtain ⟨front, block, rfl, rfl, keeps, -, -, alone, -⟩ := h.exists_eq_append dwells hkept
      have other : y ≠ '<' := fun angle => plain (by simp [angle])
      obtain rfl := alone other
      have plain' : '<' ∉ text := fun mem => plain (List.mem_append_left _ mem)
      obtain ⟨front', rfl, hfront, raw⟩ := ih plain' dwells.init hks
      refine ⟨front', by simp, hfront, fun _ => ?_⟩
      by_cases nil : text = []
      · subst nil
        rw [List.append_nil] at keeps
        exact keeps.1
      · exact raw nil

/-- Behind an angle bracket of raw text, nothing of a server block is kept. -/
theorem Begins.kept_of_passes (h : t.Begins e es) {front block : List Char}
    (dwells : t.Dwells (front ++ '<' :: block)) (raw : (t.advanceAll front).state = .rawText)
    (passes : (t.advanceAll (front ++ ['<'])).Passes block) :
    t.kept (front ++ '<' :: block) = ('<', (t.advanceAll front).position) :: t.kept front := by
  have keeps : (t.advanceAll front).Keeps '<' := ⟨raw, .inr (by decide)⟩
  induction block using List.reverseRecOn with
  | nil => exact kept_concat_of_keeps keeps
  | append_singleton block c ih =>
    obtain nil | ⟨inside, hblock, leaves⟩ := passes
    · exact absurd nil (by simp)
    have split : front ++ '<' :: (block ++ [c]) = (front ++ '<' :: block) ++ [c] := by simp
    rw [split] at dwells ⊢
    have on := h.keepsOn_of_dwells (dwells.init.take ⟨block, by simp⟩) keeps
    cases block with
    | nil =>
      -- The percent sign opens the block, since the angle bracket has been held back.
      have percent : c = '%' := (List.cons.inj hblock).1
      have skips : ¬ (t.advanceAll (front ++ ['<'])).Keeps c := by
        rintro ⟨-, none | other⟩
        · rw [← Option.not_isSome_iff_eq_none] at none
          exact none (on.held.mpr rfl)
        · exact other percent
      rw [kept_concat_of_skips skips]
      exact kept_concat_of_keeps keeps
    | cons d rest =>
      obtain ⟨rfl, rfl⟩ := List.cons.inj hblock
      have skips : ¬ (t.advanceAll (front ++ '<' :: '%' :: rest)).Keeps c := by
        rintro ⟨state, -⟩
        rw [advanceAll_split] at state
        exact leaves rest (List.prefix_append rest [c]) (by simp) state
      rw [kept_concat_of_skips skips]
      refine ih dwells.init (.inr ⟨rest, rfl, fun read before other => ?_⟩)
      have longer : read ≠ rest ++ [c] := by
        rintro rfl
        have shorter := before.length_le
        simp at shorter
      exact leaves read (before.trans (List.prefix_append rest [c])) longer

/-- Raw text in which nothing looks like a server block is kept. -/
theorem Begins.kept_append (h : t.Begins e es) {front text : List Char}
    (dwells : t.Dwells (front ++ text)) (raw : (t.advanceAll front).state = .rawText)
    (plain : '%' ∉ text) :
    (t.advanceAll (front ++ text)).state = .rawText ∧
      ∃ ks, t.kept (front ++ text) = ks ++ t.kept front ∧ ks.map Prod.fst = text.reverse := by
  induction text using List.reverseRecOn with
  | nil =>
    rw [List.append_nil]
    exact ⟨raw, [], rfl, rfl⟩
  | append_singleton text c ih =>
    rw [← List.append_assoc] at dwells ⊢
    obtain ⟨state, ks, hkept, hks⟩ := ih dwells.init fun mem => plain (List.mem_append_left _ mem)
    have keeps : (t.advanceAll (front ++ text)).Keeps c :=
      ⟨state, .inr fun percent => plain (by simp [percent])⟩
    refine ⟨(h.keepsOn_of_dwells dwells keeps).state,
      (c, (t.advanceAll (front ++ text)).position) :: ks, ?_, ?_⟩
    · rw [kept_concat_of_keeps keeps, hkept, List.cons_append]
    · rw [List.map_cons, hks, List.reverse_append, List.reverse_singleton, List.singleton_append]

/-! ### The end of raw text -/

/-- The source `ds` of raw text ends with a closing tag of `e`, but for its last angle bracket: the
first one, at `start`, may be that of a server block, and then the tag goes on behind this block.
Tags that are longer than what is searched do not count. -/
def EndsWithTag (t : Scanner) (e : OpenTag) (ds : List Char) (start : Position) : Prop :=
  ∃ front block name, ds = front ++ '<' :: (block ++ '/' :: name) ∧
    (t.advanceAll front).state = .rawText ∧ (t.advanceAll front).position = start ∧
    (t.advanceAll (front ++ ['<'])).Passes block ∧
    (t.advanceAll (front ++ '<' :: block)).state = .rawText ∧
    e.Calls name ∧ name.length + 3 ≤ rawTailLength

variable {start : Position}

theorem closes_iff_of_searches {ks : List (Char × Position)} (h : t.Searches ks e es) :
    t.Closes e ↔ ∃ name, closingName? [] ((ks.map Prod.fst).take 31) = some name ∧
      Text.sameName (String.ofList (Text.trimChars name)) e.name.localName := by
  have tail : (('>' :: t.rawTail).take rawTailLength).tail = (ks.map Prod.fst).take 31 := by
    simp [h.tail, rawTailLength, List.take_take]
  unfold Closes tailCloses
  rw [tail]
  cases closingName? [] ((ks.map Prod.fst).take 31) with
  | none => simp
  | some name => simp

/-- Where the search finds a closing tag, the source has it. -/
theorem Begins.endsWithTag_of_closes (h : t.Begins e es) (rawText : e.name.isRawText)
    (dwells : t.Dwells ds) (closes : (t.advanceAll ds).Closes e) :
    ∃ start, t.EndsWithTag e ds start := by
  obtain ⟨name, found, same⟩ := (closes_iff_of_searches (h.searches dwells)).mp closes
  have calls : e.Calls name := (OpenTag.calls_iff rawText).mpr same
  obtain ⟨read, rest, taken, rfl⟩ := eq_append_of_closingName? found
  rw [List.append_nil] at calls
  have angle : '<' ∉ '/' :: read.reverse := by
    rw [List.mem_cons, not_or]
    exact ⟨by decide, calls.not_mem rawText (by decide) (by decide)⟩
  -- What is searched begins, from behind, with the name, the slash and the angle bracket.
  have searched : ((t.kept ds).map Prod.fst) =
      ('/' :: read.reverse).reverse ++ '<' :: (rest ++ ((t.kept ds).map Prod.fst).drop 31) := by
    have all := List.take_append_drop 31 ((t.kept ds).map Prod.fst)
    rw [taken] at all
    simpa using all.symm
  have short : read.length + 2 ≤ 31 := by
    have bound := List.length_take_le 31 ((t.kept ds).map Prod.fst)
    rw [taken] at bound
    simp only [List.length_append, List.length_cons] at bound
    omega
  obtain ⟨behind, rfl, hbehind, raw⟩ := h.eq_append_of_kept angle dwells searched
  cases hkept : t.kept behind with
  | nil =>
    rw [hkept] at hbehind
    exact nomatch hbehind
  | cons k ks =>
    obtain ⟨x, place⟩ := k
    rw [hkept, List.map_cons, List.cons.injEq] at hbehind
    obtain ⟨rfl, -⟩ := hbehind
    obtain ⟨front, block, rfl, -, keeps, hplace, passes, -, -⟩ :=
      h.exists_eq_append (dwells.take (List.prefix_append _ _)) hkept
    refine ⟨place, front, block, read.reverse, by simp, keeps.1, hplace, passes,
      raw (List.cons_ne_nil _ _), calls, ?_⟩
    rw [List.length_reverse, rawTailLength]
    omega

/-- Where the source has a closing tag, the search finds it and knows where it starts. -/
theorem Begins.closes_of_endsWithTag (h : t.Begins e es) (rawText : e.name.isRawText)
    (dwells : t.Dwells ds) (tag : t.EndsWithTag e ds start) :
    (t.advanceAll ds).state = .rawText ∧ (t.advanceAll ds).Closes e ∧
      (t.advanceAll ds).rawLt = some start := by
  obtain ⟨front, block, name, rfl, raw, rfl, passes, behind, calls, short⟩ := tag
  have split : front ++ '<' :: (block ++ '/' :: name) = (front ++ '<' :: block) ++ '/' :: name := by
    simp
  rw [split] at dwells ⊢
  have noneOf {c : Char} (other : c.isAlpha = false) (visible : Text.isBlank c = false)
      (slash : c ≠ '/') : c ∉ '/' :: name := by
    rw [List.mem_cons, not_or]
    exact ⟨slash, calls.not_mem rawText other visible⟩
  have percent : '%' ∉ '/' :: name := noneOf (by decide) (by decide) (by decide)
  have angle : '<' ∉ '/' :: name := noneOf (by decide) (by decide) (by decide)
  have opening := h.kept_of_passes (dwells.take (List.prefix_append _ _)) raw passes
  obtain ⟨state, ks, hkept, hks⟩ := h.kept_append dwells behind percent
  have searches := h.searches dwells
  rw [hkept, opening] at searches
  refine ⟨state, (closes_iff_of_searches searches).mpr ⟨name, ?_, ?_⟩, ?_⟩
  · have text : (ks ++ ('<', (t.advanceAll front).position) :: t.kept front).map Prod.fst =
        name.reverse ++ '/' :: '<' :: (t.kept front).map Prod.fst := by
      rw [List.map_append, hks]
      simp
    have taken : (name.reverse ++ '/' :: '<' :: (t.kept front).map Prod.fst).take 31 =
        name.reverse ++ '/' :: '<' :: ((t.kept front).map Prod.fst).take (29 - name.length) := by
      rw [rawTailLength] at short
      rw [List.take_append, List.take_of_length_le (by simp; omega), List.length_reverse]
      have rest : 31 - name.length = (29 - name.length) + 2 := by omega
      rw [rest]
      rfl
    have plain : '<' ∉ name.reverse := fun mem =>
      angle (List.mem_cons_of_mem _ (List.mem_reverse.mp mem))
    rw [text, taken, closingName?_append plain]
    simp
  · exact (OpenTag.calls_iff rawText).mp calls
  · have none : ks.find? (fun k => k.1 = '<') = none := by
      rw [List.find?_eq_none]
      intro k hk
      have mem : k.1 ∈ ('/' :: name).reverse := hks ▸ List.mem_map_of_mem hk
      rw [decide_eq_true_eq]
      rintro same
      rw [same] at mem
      exact angle (List.mem_reverse.mp mem)
    rw [searches.lt, List.find?_append, none]
    simp

/-- Raw text goes on with a character, unless this is an angle bracket that closes it. -/
theorem Begins.closes_or_dwells (h : t.Begins e es) (dwells : t.Dwells ds) (c : Char) :
    (c = '>' ∧ (t.advanceAll ds).Closes e) ∨ t.Dwells (ds ++ [c]) := by
  rw [or_iff_not_imp_left]
  intro open'
  refine dwells.concat ?_
  rw [advanceAll_concat]
  by_cases keeps : (t.advanceAll ds).Keeps c
  · exact .inl (keepsOn_advance keeps (h.searches dwells).opened
      fun close closes => open' ⟨close, closes⟩).state
  · exact ((h.reached.advanceAll ds).skips dwells.here keeps).1

/-- Behind a closing tag, an angle bracket ends raw text. -/
theorem Begins.endsElement (h : t.Begins e es) (rawText : e.name.isRawText) (dwells : t.Dwells ds)
    (tag : t.EndsWithTag e ds start) :
    (t.advanceAll (ds ++ ['>'])).EndsElement e
      ⟨start, (t.advanceAll (ds ++ ['>'])).position⟩ := by
  obtain ⟨state, closes, lt⟩ := h.closes_of_endsWithTag rawText dwells tag
  rw [advanceAll_concat]
  exact endsElement_advance state (h.searches dwells).opened lt closes

theorem EndsElement.span_unique {span span' : Span} (h : t.EndsElement e span)
    (h' : t.EndsElement e span') : span = span' := by
  have same := h.2.symm.trans h'.2
  exact (MarkupEvent.endTag.inj (Option.some.inj same)).2

/-- Raw text that has begun behind a start tag goes on with every character, but for an angle
bracket behind a closing tag of its element. This one ends it, and records a closing tag that
reaches from the tag's first angle bracket to its last one. -/
theorem endsRawText_iff {cs : List Char} {b : Char}
    (before : ¬ (({} : Scanner).advanceAll cs).skeleton.InRawText)
    (begun : (({} : Scanner).advanceAll (cs ++ [b])).state = .rawText)
    (opened : (({} : Scanner).advanceAll (cs ++ [b])).openElements.head? = some e)
    (dwells : (({} : Scanner).advanceAll (cs ++ [b])).Dwells ds) (c : Char) :
    let t := ({} : Scanner).advanceAll (cs ++ [b])
    (∀ span, (t.advanceAll (ds ++ [c])).EndsElement e span ↔
        c = '>' ∧ t.EndsWithTag e ds span.start ∧
          span.stop = (t.advanceAll (ds ++ [c])).position) ∧
      ((∃ span, (t.advanceAll (ds ++ [c])).EndsElement e span) ∨ t.Dwells (ds ++ [c])) := by
  intro t
  have reached : t.Reached := reached_advanceAll _
  obtain ⟨es, hes⟩ := List.head?_eq_some_iff.mp opened
  have nothing : t.rawTail = [] ∧ t.rawLt = none := by
    have front := reached_advanceAll cs
    have turn := front.turn b
    rw [← advanceAll_concat] at turn
    exact turn.begins front.consistent before begun
  have begins : t.Begins e es := ⟨reached, hes, nothing.1, nothing.2⟩
  have rawText : e.name.isRawText := by
    obtain ⟨e', es', hes', raw⟩ := reached.consistent.raw (.inl begun)
    obtain ⟨rfl, -⟩ := List.cons.inj (hes.symm.trans hes')
    exact raw
  obtain ⟨rfl, closes⟩ | goesOn := begins.closes_or_dwells dwells c
  · obtain ⟨start, tag⟩ := begins.endsWithTag_of_closes rawText dwells closes
    have ended := begins.endsElement rawText dwells tag
    refine ⟨fun span => ⟨fun ends => ?_, ?_⟩, .inl ⟨_, ended⟩⟩
    · obtain rfl := ended.span_unique ends
      exact ⟨rfl, tag, rfl⟩
    · rintro ⟨-, tag', stop⟩
      have ended' := begins.endsElement rawText dwells tag'
      rwa [← stop] at ended'
  · refine ⟨fun span => ⟨fun ends => ?_, ?_⟩, .inr goesOn⟩
    · exact absurd goesOn.here ((reached.advanceAll _).consistent.not_inRawText ends.1)
    · rintro ⟨rfl, tag, -⟩
      have ended := begins.endsElement rawText dwells tag
      exact absurd goesOn.here ((reached.advanceAll _).consistent.not_inRawText ended.1)

/-- The element that `<script>` at the start of a page opens. -/
def scriptAtStart : OpenTag := ⟨⟨none, "script"⟩, {}, ⟨{}, ⟨0, 8⟩⟩⟩

instance (t : Scanner) (e : OpenTag) (span : Span) : Decidable (t.EndsElement e span) :=
  inferInstanceAs (Decidable (_ ∧ _))

/-- A script ends behind its closing tag. -/
theorem endsRawText_script :
    let t := ({} : Scanner).advanceAll "<script>".toList
    (t.state = .rawText ∧ t.Dwells "a</script".toList) ∧
      (t.advanceAll "a</script>".toList).EndsElement scriptAtStart ⟨⟨0, 9⟩, ⟨0, 18⟩⟩ := by
  have dwells : (({} : Scanner).advanceAll ("<script".toList ++ ['>'])).Dwells
      "a</script".toList := by
    decide +kernel
  have tag : (({} : Scanner).advanceAll "<script>".toList).EndsWithTag scriptAtStart
      "a</script".toList ⟨0, 9⟩ := by
    have calls : scriptAtStart.Calls "script".toList :=
      ⟨[], "script".toList, [], rfl, nofun, by decide +kernel⟩
    exact ⟨['a'], [], "script".toList, rfl, by decide +kernel, by decide +kernel, .inl rfl,
      by decide +kernel, calls, by decide⟩
  refine ⟨⟨by decide +kernel, dwells⟩, ?_⟩
  have ends := endsRawText_iff (e := scriptAtStart) (by decide +kernel) (by decide +kernel)
    (by decide +kernel) dwells '>'
  exact (ends.1 ⟨⟨0, 9⟩, ⟨0, 18⟩⟩).mpr ⟨rfl, tag, by decide +kernel⟩

/-- The source in front of an angle bracket ends with a closing tag of `e` in one piece. -/
def EndsInOnePiece (e : OpenTag) (ds : List Char) : Prop :=
  ∃ front name, ds = front ++ '<' :: '/' :: name ∧ e.Calls name

/-- A script ends where there is no closing tag in one piece, since the first angle bracket of a
server block is taken for that of the tag; and it does not end behind a closing tag in which there
is a lot of white space. -/
theorem not_endsInOnePiece_behind_block :
    let t := ({} : Scanner).advanceAll "<script>".toList
    let wide := "</script".toList ++ List.replicate 24 ' '
    ((t.advanceAll "<%%>/script>".toList).EndsElement scriptAtStart ⟨⟨0, 8⟩, ⟨0, 20⟩⟩ ∧
        ¬ EndsInOnePiece scriptAtStart "<%%>/script".toList) ∧
      (t.advanceAll (wide ++ ['>'])).state = .rawText ∧ EndsInOnePiece scriptAtStart wide := by
  refine ⟨⟨by decide +kernel, ?_⟩, by decide +kernel, ?_⟩
  · rintro ⟨front, name, split, -⟩
    have inOnePiece : ['<', '/'] <:+: "<%%>/script".toList := by
      rw [split]
      exact ⟨front, name, by simp⟩
    revert inOnePiece
    decide
  · refine ⟨[], "script".toList ++ List.replicate 24 ' ', rfl, [], "script".toList,
      List.replicate 24 ' ', rfl, fun c hc => ?_, by decide +kernel⟩
    rw [List.nil_append] at hc
    obtain rfl := List.eq_of_mem_replicate hc
    decide

end Scanner

end WebForms
