/-
  Proofs/Annotation/Comments.lean --- what classifying a line keeps of it.

  WHAT THIS FILE IS FOR.  A line is cut at the comment that holds its directive: code,
  the opener of the comment, the directive, its closer or nothing, and what follows
  (`DirectiveCut`).  The pieces, put together, are the line without the carriage returns
  at its end, so what a line loses is its comment and blanks and nothing else
  (`LineToken.ofLine_keeps_code`).

  HOW.  Each reader gives back the text that it was given, cut in pieces, and reads the
  piece that it took alone as it did before (`opener?_eq_some`, `readLevel?_eq_some`,
  `afterCloser?_eq_some`, `read?_eq_some`).  What a block directive is does not depend on
  what follows it, unless this is a bracket (`IsBlock`).
-/
import PageHighlight.Directive
import PageHighlight.Proofs.Text.Blank
import PageHighlight.Proofs.Text.Occurrences

set_option autoImplicit false

namespace PageHighlight

/-- Comments run to the end of their line, or they have one of two closers. -/
theorem CommentForm.closer_cases {form : CommentForm} (h : form ∈ commentForms) :
    form.closer = [] ∨ form.closer = "*/".toList ∨ form.closer = "-->".toList := by
  simp only [commentForms, List.mem_cons, List.not_mem_nil, or_false] at h
  rcases h with rfl | rfl | rfl | rfl | rfl | rfl <;> decide

/-! ## The pieces of a line -/

/-- A line cut at the comment that holds its directive. -/
structure DirectiveCut where
  /-- The code before the comment. -/
  lead : Text
  /-- The form of the comment. -/
  form : CommentForm
  /-- What stands between its opener and the directive. -/
  gap : Text
  /-- The directive as it is written. -/
  written : Text
  /-- What stands between the directive and the closer. -/
  endGap : Text
  /-- The closer, if there is one. -/
  closing : Text
  /-- What follows the comment. -/
  tail : Text

namespace DirectiveCut

/-- The pieces of a line, put together. -/
def text (c : DirectiveCut) : Text :=
  c.lead ++ c.form.opener ++ c.gap ++ c.written ++ c.endGap ++ c.closing ++ c.tail

/-- A line is cut at a comment of a form that is known, in which a directive stands
between blanks, and the closer of that form or nothing. -/
structure Holds (c : DirectiveCut) (d : Directive) : Prop where
  known : c.form ∈ commentForms
  gap : Text.allBlank c.gap = true
  endGap : Text.allBlank c.endGap = true
  closing : c.closing = c.form.closer ∨ c.closing = []
  word : Directive.word <+: c.written
  reads : Directive.read? [] c.written = some (d, [])

end DirectiveCut

/-! ## What the readers take -/

namespace Directive

theorem opener?_eq_some {before lead : Text} {form : CommentForm}
    (h : opener? before = some (lead, form)) :
    form ∈ commentForms ∧ ∃ gap, Text.allBlank gap = true ∧
      before = lead ++ form.opener ++ gap := by
  obtain ⟨form', hmem, hform⟩ := List.exists_of_findSome?_eq_some h
  obtain ⟨code, hcode, he⟩ := Option.map_eq_some_iff.1 hform
  cases he
  obtain ⟨gap, hgap, hbefore⟩ := Text.trimEnd_append before
  refine ⟨hmem, gap, hgap, ?_⟩
  rw [← Text.dropSuffix?_eq_some.1 hcode]
  exact hbefore

theorem readLevel?_eq_some {t rest : Text} {level : Level}
    (h : readLevel? t = some (level, rest)) :
    ∃ bracket, t = bracket ++ rest ∧ readLevel? bracket = some (level, []) := by
  unfold readLevel? at h
  split at h
  · next inner =>
    obtain ⟨⟨number, after⟩, hsplit, he⟩ := Option.map_eq_some_iff.1 h
    cases he
    refine ⟨'[' :: (number ++ "]".toList), ?_, ?_⟩
    · rw [List.cons_append, ← Text.split?_eq_some hsplit]
    · have hbracket := Text.split?_behind hsplit []
      rw [List.append_nil] at hbracket
      rw [readLevel?, hbracket]
      rfl
  · cases h
    exact ⟨[], rfl, rfl⟩

/-- Blanks are left out behind a directive, and the closer if it comes first behind them. -/
theorem afterCloser?_eq_some {closer rest tail : Text}
    (h : afterCloser? closer rest = some tail) :
    ∃ endGap closing, Text.allBlank endGap = true ∧ (closing = closer ∨ closing = []) ∧
      rest = endGap ++ closing ++ tail ∧
      (closer ≠ [] → (closing = closer ↔ closer <+: Text.trimStart rest)) := by
  unfold afterCloser? at h
  split at h
  · cases h
  · cases h
    obtain ⟨endGap, hblank, hrest⟩ := Text.exists_trimStart rest
    split
    · next hempty =>
      exact ⟨endGap, [], hblank, .inr rfl, by rw [List.append_nil, ← hrest],
        fun hcloser => absurd (List.isEmpty_iff.1 hempty) hcloser⟩
    · cases hd : Text.dropPrefix? closer (Text.trimStart rest) with
      | none =>
        refine ⟨endGap, [], hblank, .inr rfl, by simpa using hrest, fun hcloser => ?_⟩
        refine iff_of_false hcloser.symm ?_
        rintro ⟨tail, htrim⟩
        rw [Text.dropPrefix?_eq_some.2 htrim.symm] at hd
        cases hd
      | some tail =>
        have htrim := Text.dropPrefix?_eq_some.1 hd
        refine ⟨endGap, closer, hblank, .inl rfl, ?_, fun _ => iff_of_true rfl ⟨tail, htrim.symm⟩⟩
        rw [List.append_assoc, Option.getD_some, ← htrim]
        exact hrest

/-- A list of ranges goes on to the closer. -/
theorem exists_closing {closer list spec tail : Text}
    (h : (if closer.isEmpty then (list, []) else (Text.split? closer list).getD (list, [])) =
      (spec, tail)) :
    ∃ closing, list = spec ++ closing ++ tail ∧ (closing = closer ∨ closing = []) := by
  split at h
  · cases h
    exact ⟨[], by simp, .inr rfl⟩
  · cases hsplit : Text.split? closer list with
    | none =>
      rw [hsplit] at h
      cases h
      exact ⟨[], by simp, .inr rfl⟩
    | some p =>
      rw [hsplit] at h
      cases h
      exact ⟨closer, Text.split?_eq_some hsplit, .inl rfl⟩

/-- A block directive as it is written: whatever follows is read behind it, unless a bracket
follows. -/
structure IsBlock (written : Text) (d : Directive) : Prop where
  word : word <+: written
  reads : ∀ closer rest : Text, rest.head? ≠ some '[' →
    read? closer (written ++ rest) = (afterCloser? closer rest).map fun tail => (d, tail)

theorem isBlock_stop : IsBlock stopWord .stop where
  word := ⟨"-end".toList, rfl⟩
  reads closer rest _ := by
    have hother : Text.dropPrefix? startWord (stopWord ++ rest) = none := rfl
    rw [read?, hother, Text.dropPrefix?_eq_some.2 rfl]

theorem readLevel?_append {bracket rest : Text} {level : Level}
    (h : readLevel? bracket = some (level, [])) (hrest : rest.head? ≠ some '[') :
    readLevel? (bracket ++ rest) = some (level, rest) := by
  have hlowest : ∀ t : Text, t.head? ≠ some '[' → readLevel? t = some (Level.one, t) := by
    intro t ht
    unfold readLevel?
    split
    · exact absurd rfl ht
    · rfl
  by_cases hbracket : bracket.head? = some '['
  · obtain ⟨inner, rfl⟩ := List.head?_eq_some_iff.1 hbracket
    obtain ⟨⟨number, after⟩, hsplit, he⟩ := Option.map_eq_some_iff.1 h
    cases he
    rw [List.cons_append, readLevel?, Text.split?_append hsplit]
    rfl
  · rw [hlowest bracket hbracket] at h
    cases h
    exact hlowest rest hrest

theorem isBlock_start {bracket : Text} {level : Level}
    (h : readLevel? bracket = some (level, [])) :
    IsBlock (startWord ++ bracket) (.start level) where
  word := ⟨"-start".toList ++ bracket, rfl⟩
  reads closer rest hrest := by
    rw [List.append_assoc, read?, Text.dropPrefix?_eq_some.2 rfl]
    simp only [readLevel?_append h hrest, Option.bind_eq_bind, Option.bind_some]
    cases afterCloser? closer rest <;> rfl

theorem IsBlock.read?_self {written : Text} {d : Directive} (h : IsBlock written d) :
    read? [] written = some (d, []) := by
  have hreads := h.reads [] [] nofun
  rw [List.append_nil] at hreads
  exact hreads

/-- A reader of a block directive takes the directive, and then what closes the comment. -/
theorem read?_eq_some_of_block {closer t tail : Text} {d : Directive}
    (hblock : ∀ rs, d ≠ .ranges rs) (h : read? closer t = some (d, tail)) :
    ∃ written after, t = written ++ after ∧ afterCloser? closer after = some tail ∧
      IsBlock written d := by
  unfold read? at h
  cases hstart : Text.dropPrefix? startWord t with
  | some rest =>
    simp only [hstart, Option.bind_eq_bind, Option.bind_eq_some_iff] at h
    obtain ⟨⟨level, rest'⟩, hlevel, tail', htail, he⟩ := h
    cases he
    obtain ⟨bracket, hrest, hbracket⟩ := readLevel?_eq_some hlevel
    refine ⟨startWord ++ bracket, rest', ?_, htail, isBlock_start hbracket⟩
    rw [Text.dropPrefix?_eq_some.1 hstart, hrest, List.append_assoc]
  | none =>
    simp only [hstart] at h
    cases hstop : Text.dropPrefix? stopWord t with
    | some rest =>
      simp only [hstop] at h
      obtain ⟨tail', htail, he⟩ := Option.map_eq_some_iff.1 h
      cases he
      exact ⟨stopWord, rest, Text.dropPrefix?_eq_some.1 hstop, htail, isBlock_stop⟩
    | none =>
      simp only [hstop, Option.bind_eq_bind, Option.bind_eq_some_iff] at h
      obtain ⟨rest, -, list, -, he⟩ := h
      cases he
      exact absurd rfl (hblock _)

/-- A reader of a list of ranges takes the word, a colon and the list, and then the
closer. -/
theorem read?_eq_some_of_ranges {closer t tail : Text} {rs : List LineRange}
    (h : read? closer t = some (.ranges rs, tail)) :
    ∃ written closing, t = written ++ closing ++ tail ∧ (closing = closer ∨ closing = []) ∧
      word <+: written ∧ read? [] written = some (.ranges rs, []) := by
  unfold read? at h
  cases hstart : Text.dropPrefix? startWord t with
  | some rest =>
    simp only [hstart, Option.bind_eq_bind, Option.bind_eq_some_iff] at h
    obtain ⟨p, _, tail', _, he⟩ := h
    cases he
  | none =>
    simp only [hstart] at h
    cases hstop : Text.dropPrefix? stopWord t with
    | some rest =>
      simp only [hstop] at h
      obtain ⟨tail', _, he⟩ := Option.map_eq_some_iff.1 h
      cases he
    | none =>
      simp only [hstop, Option.bind_eq_bind, Option.bind_eq_some_iff] at h
      obtain ⟨rest, hword, list, hcolon, he⟩ := h
      generalize hpieces : (if closer.isEmpty then (list, []) else
        (Text.split? closer list).getD (list, [])) = pieces at he
      obtain ⟨spec, tail'⟩ := pieces
      cases he
      obtain ⟨closing, hlist, hclosing⟩ := exists_closing hpieces
      obtain ⟨gap, hgap, hrest⟩ := Text.exists_trimStart rest
      have ht : t = (word ++ (gap ++ ':' :: spec)) ++ (closing ++ tail') := by
        have hcolon := Text.dropPrefix?_eq_some.1 hcolon
        rw [hcolon, hlist] at hrest
        rw [Text.dropPrefix?_eq_some.1 hword, hrest]
        simp
      -- the words of block directives do not begin here, since they did not before
      have hnone : ∀ other, Text.dropPrefix? other t = none →
          Text.dropPrefix? other (word ++ (gap ++ ':' :: spec)) = none := by
        intro other hother
        cases hshort : Text.dropPrefix? other (word ++ (gap ++ ':' :: spec)) with
        | none => rfl
        | some r =>
          rw [ht, Text.dropPrefix?_append hshort] at hother
          cases hother
      refine ⟨word ++ (gap ++ ':' :: spec), closing, by rw [ht]; simp, hclosing,
        List.prefix_append _ _, ?_⟩
      have hspec : Text.trimStart (gap ++ ':' :: spec) = ":".toList ++ spec := by
        rw [Text.trimStart_append hgap, Text.trimStart_cons (by decide)]
        rfl
      rw [read?, hnone _ hstart]
      simp only [hnone _ hstop, Text.dropPrefix?_eq_some.2 rfl, hspec, Option.bind_eq_bind,
        Option.bind_some]
      rfl

/-- A reader of a directive takes the directive, blanks and the closer. -/
theorem read?_eq_some {closer t tail : Text} {d : Directive}
    (h : read? closer t = some (d, tail)) :
    ∃ written endGap closing, t = written ++ endGap ++ closing ++ tail ∧
      Text.allBlank endGap = true ∧ (closing = closer ∨ closing = []) ∧ word <+: written ∧
      read? [] written = some (d, []) := by
  cases d with
  | ranges rs =>
    obtain ⟨written, closing, ht, hclosing, hword, hreads⟩ := read?_eq_some_of_ranges h
    exact ⟨written, [], closing, by rw [ht, List.append_nil], rfl, hclosing, hword, hreads⟩
  | start level | stop =>
    obtain ⟨written, after, ht, htail, hblock⟩ :=
      read?_eq_some_of_block (fun rs hrs => by cases hrs) h
    obtain ⟨endGap, closing, hblank, hclosing, hafter, -⟩ := afterCloser?_eq_some htail
    exact ⟨written, endGap, closing, by rw [ht, hafter]; simp, hblank, hclosing, hblock.word,
      hblock.read?_self⟩

end Directive

/-! ## What a line keeps -/

namespace LineToken

/-- What a line is, told by the pieces at which it is cut. -/
inductive Tells (c : DirectiveCut) (d : Directive) : LineToken → Prop where
  /-- there is nothing but the comment -/
  | whole (lead : Text.allBlank c.lead = true) (tail : Text.allBlank c.tail = true) :
      Tells c d (.whole d)
  /-- there is code before the comment, without the blanks at its end -/
  | before (lead : Text.allBlank c.lead = false) (tail : Text.allBlank c.tail = true) :
      Tells c d (.trailing (Text.trimEnd c.lead) d)
  /-- there is code after a comment that is closed, with the blanks before the comment -/
  | behind (lead : Text.allBlank c.lead = true) (tail : Text.allBlank c.tail = false)
      (closes : c.form.closer ≠ []) : Tells c d (.trailing (c.lead ++ Text.trim c.tail) d)

/-- What a line is because of a directive in it: code as it stands, or what the pieces
of the line tell. -/
theorem at?_eq_some {line before rest : Text} {first : Bool} {token : LineToken}
    (h : at? line before rest first = some token) :
    token = .code line ∨ ∃ c d, c.text = before ++ rest ∧ c.Holds d ∧ Tells c d token ∧
      ∀ rs, d = .ranges rs → token = .whole d ∧ first = true := by
  simp only [at?, Option.bind_eq_bind, Option.bind_eq_some_iff] at h
  obtain ⟨⟨lead, form⟩, hopener, ⟨d, tail⟩, hread, h⟩ := h
  obtain ⟨hknown, gap, hgap, hbefore⟩ := Directive.opener?_eq_some hopener
  obtain ⟨written, endGap, closing, hrest, hendGap, hclosing, hword, hreads⟩ :=
    Directive.read?_eq_some hread
  have htext : DirectiveCut.text ⟨lead, form, gap, written, endGap, closing, tail⟩ =
      before ++ rest := by
    rw [hbefore, hrest]
    simp only [DirectiveCut.text, List.append_assoc]
  have hholds : DirectiveCut.Holds ⟨lead, form, gap, written, endGap, closing, tail⟩ d :=
    ⟨hknown, hgap, hendGap, hclosing, hword, hreads⟩
  have told : Tells ⟨lead, form, gap, written, endGap, closing, tail⟩ d token →
      (∀ rs, d = .ranges rs → token = .whole d ∧ first = true) →
      token = .code line ∨ ∃ c d, c.text = before ++ rest ∧ c.Holds d ∧ Tells c d token ∧
        ∀ rs, d = .ranges rs → token = .whole d ∧ first = true :=
    fun htells hranges => .inr ⟨_, d, htext, hholds, htells, hranges⟩
  simp only [Text.isEmpty_trim] at h
  split at h
  · split at h
    · next hall =>
      cases h
      simp only [Bool.and_eq_true] at hall
      exact told (.whole hall.1.1 hall.1.2) fun _ _ => ⟨rfl, hall.2⟩
    · cases h
      exact .inl rfl
  · next hblock hlead htail =>
    cases h
    exact told (.whole hlead htail) fun rs hrs => (hblock rs hrs).elim
  · next hblock hlead htail =>
    cases h
    exact told (.before hlead htail) fun rs hrs => (hblock rs hrs).elim
  · next hblock hlead htail =>
    split at h
    · cases h
    · next hcloser =>
      cases h
      exact told (.behind hlead htail (mt List.isEmpty_iff.2 hcloser)) fun rs hrs =>
        (hblock rs hrs).elim
  · cases h

/-- A line is code as it stands, or what the pieces tell at which it is cut. -/
theorem ofLine_cases (line : Text) (first : Bool) :
    ofLine line first = .code line ∨
      ∃ c d, c.text = Text.dropEndWhile (· = '\r') line ∧ c.Holds d ∧
        Tells c d (ofLine line first) ∧
        ∀ rs, d = .ranges rs → ofLine line first = .whole d ∧ first = true := by
  generalize htoken : ofLine line first = token
  unfold ofLine at htoken
  rcases Option.getD_eq_iff.1 htoken with hfound | ⟨-, rfl⟩
  · obtain ⟨⟨before, rest⟩, hmem, hat⟩ := List.exists_of_findSome?_eq_some hfound
    rw [Text.append_of_mem_occurrences hmem]
    exact at?_eq_some hat
  · exact .inl rfl

/-- Classifying a line loses no code.  A line of code is kept as it stands, carriage
returns at its end included.  Any other line, without these, is cut at a comment with a
directive in it: nothing but blanks is around the comment of a line that is dropped, and
the code before or after the comment is what is kept of a line that is not.  Ranges are
read on a first line only, and only if they have it for themselves. -/
theorem ofLine_keeps_code (line : Text) (first : Bool) :
    (∀ text, ofLine line first = .code text → text = line) ∧
    (∀ d, (ofLine line first = .whole d ∨ ∃ code, ofLine line first = .trailing code d) →
      ∃ c : DirectiveCut, c.text = Text.dropEndWhile (· = '\r') line ∧ c.Holds d ∧
        Tells c d (ofLine line first)) ∧
    ∀ rs, (ofLine line first = .whole (.ranges rs) → first = true) ∧
      ∀ code, ofLine line first ≠ .trailing code (.ranges rs) := by
  rcases ofLine_cases line first with hcode | ⟨c, d, htext, hholds, htells, hranges⟩
  · rw [hcode]
    refine ⟨fun text h => (code.inj h).symm, ?_, fun rs => ⟨nofun, nofun⟩⟩
    rintro d (h | ⟨code, h⟩) <;> cases h
  · refine ⟨fun text h => ?_, fun d' h => ?_, fun rs => ⟨fun h => ?_, fun code h => ?_⟩⟩
    · rw [h] at htells
      cases htells
    · have hd : d' = d := by
        rcases h with h | ⟨code, h⟩ <;> rw [h] at htells <;> cases htells <;> rfl
      exact ⟨c, htext, hd ▸ hholds, hd ▸ htells⟩
    · rw [h] at htells
      cases htells with
      | whole => exact (hranges rs rfl).2
    · have hd : d = .ranges rs := by
        rw [h] at htells
        cases htells <;> rfl
      have hwhole := (hranges rs hd).1
      rw [h] at hwhole
      cases hwhole

/-- Code after a comment that is closed, on a line that ends with a carriage return. -/
theorem ofLine_keeps_code_behind :
    let line := " /* @highlight-end */ f()\r".toList
    ofLine line false = .trailing " f()".toList .stop ∧
      ∃ c : DirectiveCut, c.text = Text.dropEndWhile (· = '\r') line ∧ c.Holds .stop ∧
        Tells c .stop (.trailing " f()".toList .stop) := by
  intro line
  have htoken : ofLine line false = .trailing " f()".toList .stop := by decide +kernel
  have hkept := (ofLine_keeps_code line false).2.1 .stop (.inr ⟨_, htoken⟩)
  rw [htoken] at hkept
  exact ⟨htoken, hkept⟩

end LineToken

end PageHighlight
