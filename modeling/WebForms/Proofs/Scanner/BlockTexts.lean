import WebForms.Proofs.Scanner.OutsideBlocks
import WebForms.Proofs.Scanner.Sources

/-!
# The text of server blocks

The text of a server block begins behind its opening, or behind the marker that selects its kind,
and ends in front of the first percent sign that an angle bracket follows. While a scanner reads the
block, it has gathered the text up to the place where it is; when the block is recorded, it has been
read in this way from the beginning of its text to the end.

## Main definitions

* `BlockKind.opening` — the characters in front of the text of a server block
* `Scanner.Gathers` — a server block is read, and part of its text has been gathered
* `Scanner.BlockTurn` — what a character may do to a server block
* `Scanner.ReadsText`, `Scanner.BlockEnds` — the text of a server block inside of a text

## Main results

* `Scanner.blockTurn_step` — what a character does to a server block is one of these
* `Scanner.blocksRead`, `Scanner.exists_blockEnds` — the text of a server block is there while
  the block is read, and for each block that is recorded
-/

namespace WebForms

open Text

namespace BlockKind

/-- The characters with which a server block of this kind opens. -/
def opening : BlockKind → List Char
  | code => ['<', '%']
  | render => ['<', '%', '=']
  | dataBinding => ['<', '%', '#']
  | resource => ['<', '%', '$']
  | htmlEncoded => ['<', '%', ':']

/-- A marker is the last character of the opening. -/
theorem opening_of_ofMarker? {c : Char} {kind : BlockKind} (h : ofMarker? c = some kind) :
    kind.opening = ['<', '%', c] := by
  unfold ofMarker? at h
  split at h
  · obtain rfl := Option.some.inj h
    rfl
  · obtain rfl := Option.some.inj h
    rfl
  · obtain rfl := Option.some.inj h
    rfl
  · obtain rfl := Option.some.inj h
    rfl
  · cases h

end BlockKind

namespace Scanner

variable {t : Scanner} {c : Char} {here : Position} {kind : BlockKind} {body : List Char}
  {content raw : String} {start : Position} {ps : List Pending}

/-! ### The text of a server block -/

/-- The scanner reads a server block of the kind `kind` that begins at `start` and whose text begins
at `here`, and has gathered `body` of this text. -/
inductive Gathers (t : Scanner) (start here : Position) : BlockKind → List Char → Prop
  /-- Only the opening has been read. -/
  | opened {raw : String} {ps : List Pending} (state : t.state = .blockOpen)
      (top : t.pending = .block .code "" raw start here :: ps) : t.Gathers start here .code []
  /-- A dash has been read, of which it is not yet known whether it is code. -/
  | dash {raw : String} {ps : List Pending} (state : t.state = .serverCommentOpen)
      (top : t.pending = .block .code "" raw start here :: ps) : t.Gathers start here .code ['-']
  | inside {kind : BlockKind} {text raw : String} {ps : List Pending} {body : List Char}
      (state : t.state = .block kind)
      (top : t.pending = .block kind text raw start here :: ps) (whole : text.toList = body) :
      t.Gathers start here kind body

theorem Gathers.advance (h : (t.step c).Gathers start here kind body) :
    (t.advance c).Gathers start here kind body := by
  cases h with
  | opened state top => exact .opened state top
  | dash state top => exact .dash state top
  | inside state top whole => exact .inside state top whole

/-- What the character `c` up to `stop` may do to a server block of whose text `body` has been
gathered, when `old` has been recorded. -/
inductive BlockTurn (old : Array MarkupEvent) (c : Char) (stop start here : Position)
    (kind : BlockKind) (body : List Char) (u : Scanner) : Prop
  /-- It belongs to the text. -/
  | gathered (h : u.Gathers start here kind (body ++ [c]))
      (inside : ¬ (['%'] <:+ body ∧ c = '>')) (events : u.events = old)
  /-- It selects the kind of the block, and the text begins behind it. -/
  | marked (code : kind = .code) (empty : body = []) {kind' : BlockKind}
      (marker : BlockKind.ofMarker? c = some kind') (h : u.Gathers start stop kind' [])
      (events : u.events = old)
  /-- It makes a directive or a comment of the block. -/
  | other (h : u.Idle old)
  /-- It ends the block, with the percent sign in front of it. -/
  | closed (close : c = '>') (state : ¬ u.state.ReadsBlock) (text : String)
      (whole : body = text.toList ++ ['%'] ∨ body = [] ∧ text = "")
      (events : ∀ e span, .block e span ∈ u.events →
        .block e span ∈ old ∨ e = ⟨kind, text, here⟩ ∧ span = ⟨start, stop⟩)

section

variable (behind : ¬ (t.resume.headD .free).ReadsBlock)
  (last : body ≠ [] → t.lastChar = body.getLast?) (gathered : content.toList = body)
include behind last gathered

theorem blockTurn_endBlock (close : c = '>') (percent : t.lastChar = some '%')
    (hp : t.pending = .block kind content raw start here :: ps) :
    BlockTurn t.events c (t.position.advance c) start here kind body
      (t.endBlock (t.position.advance c)) := by
  subst gathered
  -- The percent sign has been gathered with the text, and is taken off again.
  have whole : content.toList =
      (if content.endsWith "%" then (content.dropEnd 1).copy else content).toList ++ ['%'] ∨
        content.toList = [] ∧
          (if content.endsWith "%" then (content.dropEnd 1).copy else content) = "" := by
    by_cases empty : content.toList = []
    · obtain rfl : content = "" := String.toList_eq_nil_iff.mp empty
      exact .inr ⟨empty, by decide⟩
    · have ends : content.endsWith "%" := by
        obtain ⟨front, whole⟩ := List.getLast?_eq_some_iff.mp ((last empty).symm.trans percent)
        exact endsWith_iff.mpr ⟨front, whole.symm⟩
      rw [if_pos ends]
      refine .inl ?_
      have length : "%".length = 1 := rfl
      simpa [length] using toList_eq_of_endsWith ends
  unfold endBlock
  simp only [hp]
  -- Inside of another construct the block is not recorded; a value keeps it as it is written.
  cases hr : t.resume with
  | nil =>
    refine .closed close id _ whole fun e span mem => ?_
    refine (Array.mem_push.mp mem).imp_right fun now => ?_
    obtain ⟨rfl, rfl⟩ := MarkupEvent.block.inj now
    exact ⟨rfl, rfl⟩
  | cons state states =>
    rw [hr] at behind
    cases state with
    | attributeValue host quote => exact .closed close id _ whole fun e span mem => .inl mem
    | _ => exact .closed close behind _ whole fun e span mem => .inl mem

theorem blockTurn_inServerBlock (hs : t.state = .block kind)
    (hp : t.pending = .block kind content raw start here :: ps) :
    BlockTurn t.events c (t.position.advance c) start here kind body (t.inServerBlock c) := by
  unfold inServerBlock
  split_ifs with close
  · exact blockTurn_endBlock behind last gathered close.1 close.2 hp
  · rw [modifyTop_eq (f := Pending.pushBlock? c) hp rfl]
    refine .gathered ?_ ?_ rfl
    · exact .inside hs rfl (by rw [String.toList_push, gathered])
    · -- The character does not end the block, unless there is no percent sign in front of it.
      rintro ⟨⟨front, percent⟩, angle⟩
      refine close ⟨angle, ?_⟩
      rw [last (by simp [← percent]), ← percent, List.getLast?_concat]

end

theorem blockTurn_inBlockOpen (behind : ¬ (t.resume.headD .free).ReadsBlock)
    (position : t.position = here) (hp : t.pending = .block .code "" raw start here :: ps) :
    BlockTurn t.events c (t.position.advance c) start here .code [] (t.inBlockOpen c) := by
  subst position
  unfold inBlockOpen
  split_ifs with directive dash
  · rw [modifyTop_eq (f := Pending.toDirective?) hp rfl]
    exact .other ⟨id, fun _ _ mem => mem⟩
  · rw [modifyTop_eq (f := Pending.pushRaw? c) hp rfl, dash]
    exact .gathered (.dash rfl rfl) (by simp) rfl
  · split
    next kind marked =>
      rw [modifyTop_eq (f := Pending.mark? kind c (t.position.advance c)) hp rfl]
      exact .marked rfl rfl marked (.inside rfl rfl rfl) rfl
    next unmarked =>
      rw [modifyTop_eq (f := Pending.startText? t.position) hp rfl]
      exact blockTurn_inServerBlock
        (t := { t with
          pending := .block .code "" raw start t.position :: ps, state := .block .code })
        behind (absurd rfl) String.toList_empty rfl rfl

theorem blockTurn_inServerCommentOpen (behind : ¬ (t.resume.headD .free).ReadsBlock)
    (last : t.lastChar = some '-') (hp : t.pending = .block .code "" raw start here :: ps) :
    BlockTurn t.events c (t.position.advance c) start here .code ['-']
      (t.inServerCommentOpen c) := by
  unfold inServerCommentOpen
  split_ifs with dash
  · rw [modifyTop_eq (f := Pending.toServerComment?) hp rfl]
    exact .other ⟨id, fun _ _ mem => mem⟩
  · rw [modifyTop_eq (f := Pending.pushText? '-') hp rfl]
    exact blockTurn_inServerBlock
      (t := { t with
        pending := .block .code ("".push '-') raw start here :: ps, state := .block .code })
      behind (fun _ => last) rfl rfl rfl

/-- While a server block is read, each character takes one of its turns. -/
theorem blockTurn_step (h : t.Gathers start here kind body)
    (behind : ¬ (t.resume.headD .free).ReadsBlock) (position : t.position = here.advanceAll body)
    (last : body ≠ [] → t.lastChar = body.getLast?) :
    BlockTurn t.events c (t.position.advance c) start here kind body (t.step c) := by
  unfold step
  cases h with
  | opened state top =>
    rw [state]
    exact blockTurn_inBlockOpen behind position top
  | dash state top =>
    rw [state]
    exact blockTurn_inServerCommentOpen behind (last (List.cons_ne_nil _ _)) top
  | inside state top whole =>
    rw [state]
    exact blockTurn_inServerBlock behind last whole state top

/-! ### Whole texts -/

/-- Behind `opening` the text of a server block of the kind `kind` begins, which has opened at
`start`. Up to each place in `body` it has been gathered, and it does not end there. -/
structure ReadsText (start : Position) (opening : List Char) (kind : BlockKind)
    (body : List Char) : Prop where
  opened : ∃ before, opening = before ++ kind.opening ∧ start = place before
  gathers : ∀ front, front <+: body →
    (({} : Scanner).advanceAll (opening ++ front)).Gathers start (place opening) kind front
  unclosed : ¬ ['%', '>'] <:+: body

/-- In `cs`, the server block `e` that covers `span` has been read, with `opening` in front of its
text and `body` up to the angle bracket that ends it. -/
structure BlockEnds (cs : List Char) (e : ServerBlock) (span : Span) (opening body : List Char) :
    Prop where
  inside : opening ++ body ++ ['>'] <+: cs
  reads : ReadsText span.start opening e.kind body
  textStart : e.textStart = place opening
  stop : span.stop = place (opening ++ body ++ ['>'])
  whole : body = e.text.toList ++ ['%'] ∨ body = [] ∧ e.text = ""

/-- What is known of server blocks when `cs` has been read. -/
structure BlocksRead (cs : List Char) : Prop where
  reading : (({} : Scanner).advanceAll cs).state.ReadsBlock →
    ∃ start opening kind body, cs = opening ++ body ∧ ReadsText start opening kind body
  recorded : ∀ e span, .block e span ∈ (({} : Scanner).advanceAll cs).events →
    ∃ opening body, BlockEnds cs e span opening body

variable {cs opening : List Char}

theorem readsText_nil (opened : ∃ before, opening = before ++ kind.opening ∧ start = place before)
    (h : (({} : Scanner).advanceAll opening).Gathers start (place opening) kind []) :
    ReadsText start opening kind [] where
  opened := opened
  gathers := by
    intro front inside
    obtain rfl := List.prefix_nil.mp inside
    rwa [List.append_nil]
  unclosed := by simp

theorem ReadsText.concat (h : ReadsText start opening kind body)
    (gathered : (({} : Scanner).advanceAll (opening ++ (body ++ [c]))).Gathers start
      (place opening) kind (body ++ [c]))
    (inside : ¬ (['%'] <:+ body ∧ c = '>')) : ReadsText start opening kind (body ++ [c]) where
  opened := h.opened
  gathers := by
    intro front isPrefix
    obtain rfl | earlier := List.prefix_concat_iff.mp isPrefix
    · exact gathered
    · exact h.gathers front earlier
  unclosed := by
    intro closing
    obtain ends | earlier := List.infix_concat_iff.mp closing
    · obtain ⟨front, split⟩ := ends
      have split' : front ++ ['%'] ++ ['>'] = body ++ [c] := by simpa using split
      obtain ⟨percent, angle⟩ := List.append_inj' split' rfl
      exact inside ⟨⟨front, percent⟩, (List.cons.inj angle).1.symm⟩
    · exact h.unclosed earlier

theorem BlockEnds.append {e : ServerBlock} {span : Span} (h : BlockEnds cs e span opening body)
    (ds : List Char) : BlockEnds (cs ++ ds) e span opening body :=
  { h with inside := h.inside.trans (List.prefix_append cs ds) }

/-- A character that records no server block changes nothing about those recorded before. -/
theorem BlocksRead.recorded_of_noNewBlocks (h : BlocksRead cs)
    (events : NoNewBlocks (({} : Scanner).advanceAll cs).events
      (({} : Scanner).advanceAll (cs ++ [c])).events) (e : ServerBlock) (span : Span)
    (mem : .block e span ∈ (({} : Scanner).advanceAll (cs ++ [c])).events) :
    ∃ opening body, BlockEnds (cs ++ [c]) e span opening body := by
  obtain ⟨opening, body, ends⟩ := h.recorded e span (events e span mem)
  exact ⟨opening, body, ends.append [c]⟩

theorem not_readsBlock_resume (cs : List Char) :
    ¬ ((({} : Scanner).advanceAll cs).resume.headD .free).ReadsBlock := by
  generalize ht : ({} : Scanner).advanceAll cs = t
  have fits : t.state.Fits t.pending t.resume := ht ▸ (reached_advanceAll cs).consistent.fits
  -- Where no construct is read, none has been interrupted.
  by_cases hfree : t.state = .free
  · rw [hfree] at fits
    rw [fits.2]
    exact id
  by_cases hraw : t.state = .rawText
  · rw [hraw] at fits
    rw [fits.2]
    exact id
  obtain ⟨p, outer, hp, -, -⟩ := fits.exists_suits hfree hraw
  rw [hp] at fits
  exact fits.suspended.not_readsBlock_headD

/-- Where no server block is read, the character opens one or leaves it so. -/
theorem BlocksRead.concat_of_idle (h : BlocksRead cs)
    (idle : ¬ (({} : Scanner).advanceAll cs).state.ReadsBlock) : BlocksRead (cs ++ [c]) := by
  have read : ({} : Scanner).advanceAll (cs ++ [c]) = (({} : Scanner).advanceAll cs).advance c := by
    rw [advanceAll_append, advanceAll_cons, advanceAll_nil]
  have opens := opens_step (c := c) (t := ({} : Scanner).advanceAll cs) ⟨idle, fun _ _ mem => mem⟩
    (not_readsBlock_resume cs)
  obtain still | ⟨u, lt, opened, events⟩ := opens
  · exact ⟨fun reads => absurd reads (read ▸ still.state),
      h.recorded_of_noNewBlocks (read ▸ still.events)⟩
  · have state : (({} : Scanner).advanceAll (cs ++ [c])).state = .blockOpen := by
      rw [read]
      exact congrArg Scanner.state opened
    have top : (({} : Scanner).advanceAll (cs ++ [c])).pending =
        .block .code "" "<%" lt (place (cs ++ [c])) :: u.pending := by
      rw [read, place_concat, ← position_advanceAll]
      exact congrArg Scanner.pending opened
    -- The opening is what has been read of the block.
    have begins : ∃ before, cs ++ [c] = before ++ BlockKind.code.opening ∧ lt = place before := by
      obtain ⟨before, body, split, start, -, whole, -⟩ :=
        (found_advanceAll (List.append_nil _).symm).top _ _ top
      rw [show body = ['<', '%'] from whole state] at split
      exact ⟨before, split, start⟩
    refine ⟨fun _ => ⟨lt, cs ++ [c], .code, [], (List.append_nil _).symm,
      readsText_nil begins (.opened state top)⟩, ?_⟩
    refine h.recorded_of_noNewBlocks ?_
    rw [read]
    exact (congrArg Scanner.events opened) ▸ events

/-- While a server block is read, each character takes one of its turns. -/
theorem BlocksRead.concat_of_readsText (h : BlocksRead (opening ++ body))
    (reads : ReadsText start opening kind body) : BlocksRead (opening ++ body ++ [c]) := by
  have gathers := reads.gathers body List.prefix_rfl
  generalize ht : ({} : Scanner).advanceAll (opening ++ body) = t at gathers
  have turn : BlockTurn t.events c (t.position.advance c) start (place opening) kind body
      (t.step c) := by
    subst ht
    refine blockTurn_step gathers (not_readsBlock_resume _) ?_ fun nonempty => ?_
    · rw [position_advanceAll, place_append]
    · rw [lastChar_advanceAll, List.getLast?_append, List.getLast?_eq_some_getLast nonempty,
        Option.some_or]
  have position : t.position.advance c = place (opening ++ body ++ [c]) := by
    rw [← ht, position_advanceAll, place_concat]
  have read : ({} : Scanner).advanceAll (opening ++ body ++ [c]) = t.advance c := by
    rw [advanceAll_append, ht, advanceAll_cons, advanceAll_nil]
  -- The block goes on, its text begins behind a marker, it turns out to be none, or it ends.
  cases turn with
  | gathered grown inside events =>
    have grown := grown.advance
    rw [← read, List.append_assoc] at grown
    refine ⟨fun _ => ⟨start, opening, kind, body ++ [c], List.append_assoc _ _ _,
      reads.concat grown inside⟩, h.recorded_of_noNewBlocks ?_⟩
    rw [read, ht]
    exact fun e span mem => events ▸ mem
  | @marked code empty kind' marker marked events =>
    have marked := marked.advance
    rw [← read, position] at marked
    have begins : ∃ before, opening ++ body ++ [c] = before ++ kind'.opening ∧
        start = place before := by
      obtain ⟨before, split, begins⟩ := reads.opened
      refine ⟨before, ?_, begins⟩
      rw [split, code, empty, BlockKind.opening_of_ofMarker? marker]
      simp [BlockKind.opening]
    refine ⟨fun _ => ⟨start, opening ++ body ++ [c], _, [], (List.append_nil _).symm,
      readsText_nil begins marked⟩, h.recorded_of_noNewBlocks ?_⟩
    rw [read, ht]
    exact fun e span mem => events ▸ mem
  | other idle =>
    refine ⟨fun reads => absurd reads ?_, h.recorded_of_noNewBlocks ?_⟩
    · exact read ▸ idle.state
    · rw [read, ht]
      exact idle.events
  | closed close state text whole events =>
    refine ⟨fun reads => absurd reads (read ▸ state), fun e span mem => ?_⟩
    rw [read] at mem
    obtain before | ⟨rfl, rfl⟩ := events e span mem
    · obtain ⟨opening', body', ends⟩ := h.recorded e span (ht ▸ before)
      exact ⟨opening', body', ends.append [c]⟩
    · subst close
      exact ⟨opening, body, List.prefix_rfl, reads, rfl, position, whole⟩

/-- What is known of server blocks holds whatever has been read. -/
theorem blocksRead (cs : List Char) : BlocksRead cs := by
  induction cs using List.reverseRecOn with
  | nil => exact ⟨False.elim, nofun⟩
  | append_singleton cs c ih =>
    by_cases reads : (({} : Scanner).advanceAll cs).state.ReadsBlock
    · obtain ⟨start, opening, kind, body, rfl, gathered⟩ := ih.reading reads
      exact ih.concat_of_readsText gathered
    · exact ih.concat_of_idle reads

/-- Each server block that is recorded of a text has been gathered in it. -/
theorem exists_blockEnds {s : String} {e : ServerBlock} {span : Span}
    (h : .block e span ∈ (readAll s).finish.events) :
    ∃ opening body, BlockEnds s.toList e span opening body := by
  refine (blocksRead s.toList).recorded e span ?_
  -- At the end of the text nothing but text is recorded.
  unfold finish at h
  split at h
  · refine noNewBlocks_endText (?_ : NoNewBlocks (readAll s).events _) _ e span h
    exact fun _ _ mem => mem
  · exact h

end Scanner

end WebForms
