/-
  Proofs/Annotation/KeptBehind.lean --- the text behind a directive that a line keeps.

  WHAT THIS FILE IS FOR.  A line that begins with a block directive in a comment keeps the
  text behind the comment as its code.  Whether the comment is closed there is not asked:
  the closer is left out if it follows the directive, and the text that follows is kept
  in any case.  So what is kept lies outside the comment if and only if the closer comes
  right behind the directive, blanks apart (`LineToken.closed_iff`); otherwise the comment
  goes on, and its text is kept as code.

  ONE CUT.  A line and what it keeps tell the form of the comment, whether the closer
  stands between the directive and what is kept, and where this begins
  (`DirectiveCut.KeepsTail.unique`).
-/
import PageHighlight.Proofs.Annotation.Written

set_option autoImplicit false

namespace PageHighlight

/-- The comments that can be closed open in different ways. -/
theorem CommentForm.eq_of_head? {form form' : CommentForm} (h : form ∈ commentForms)
    (h' : form' ∈ commentForms) (hcloser : form.closer ≠ []) (hcloser' : form'.closer ≠ [])
    (hhead : form.opener.head? = form'.opener.head?) : form = form' := by
  have hall : ∀ f ∈ commentForms, ∀ g ∈ commentForms, f.closer ≠ [] → g.closer ≠ [] →
      f.opener.head? = g.opener.head? → f = g := by decide
  exact hall form h form' h' hcloser hcloser' hhead

namespace Directive

theorem afterCloser?_blanks {w : Text} (hw : Text.allBlank w = true) :
    afterCloser? [] w = some [] := by
  have hname : nameGoesOn w = false := by
    cases w with
    | nil => rfl
    | cons b w =>
      have hb := nameGoesOn_blank_append (t := []) hw (List.cons_ne_nil b w)
      rwa [List.append_nil] at hb
  have htrim : Text.trimStart w = [] := List.dropWhile_eq_nil_iff.2 (List.all_eq_true.1 hw)
  rw [afterCloser?, if_neg (by rw [hname]; exact Bool.false_ne_true), htrim]
  rfl

/-- A text that is read as a block directive and nothing else. -/
theorem exists_isBlock {written : Text} {d : Directive} (hblock : ∀ rs, d ≠ .ranges rs)
    (h : read? [] written = some (d, [])) :
    ∃ w after, written = w ++ after ∧ Text.allBlank after = true ∧ IsBlock w d := by
  obtain ⟨w, after, hwritten, hafter, hw⟩ := read?_eq_some_of_block hblock h
  refine ⟨w, after, hwritten, ?_, hw⟩
  unfold afterCloser? at hafter
  split at hafter
  · cases hafter
  · exact List.all_eq_true.2 (List.dropWhile_eq_nil_iff.1 (Option.some.inj hafter))

/-- A directive and the closer of its comment are no directive that stands alone. -/
theorem ne_of_closer {form : CommentForm} {d d' : Directive} {written written' v b b' : Text}
    (hform : form ∈ commentForms) (hcloser : form.closer ≠ [])
    (hd : ∀ rs, d ≠ .ranges rs) (hd' : ∀ rs, d' ≠ .ranges rs)
    (hreads : read? [] written = some (d, [])) (hreads' : read? [] written' = some (d', []))
    (hv : Text.allBlank v = true) (hb : Text.allBlank b = true) (hb' : Text.allBlank b' = true) :
    written ++ (v ++ form.closer ++ b) ≠ written' ++ b' := by
  intro h
  obtain ⟨w, after, rfl, hafter, hw⟩ := exists_isBlock hd hreads
  obtain ⟨w', after', rfl, hafter', hw'⟩ := exists_isBlock hd' hreads'
  -- alone it is read to its end
  have hblanks : Text.allBlank (after' ++ b') = true := Text.allBlank_append.2 ⟨hafter', hb'⟩
  have hwhole := hw'.reads [] _ (head?_blanks_ne hblanks)
  rw [afterCloser?_blanks hblanks, ← List.append_assoc, ← h] at hwhole
  -- with the closer behind it something is left
  have hgap : Text.allBlank (after ++ v) = true := Text.allBlank_append.2 ⟨hafter, hv⟩
  have hleft := hw.reads [] (after ++ v ++ form.closer ++ b) (head?_closer_ne hform hgap hb)
  have happend : w ++ (after ++ v ++ form.closer ++ b) =
      w ++ after ++ (v ++ form.closer ++ b) := by simp only [List.append_assoc]
  rw [happend, hwhole] at hleft
  obtain ⟨tail, htail, he⟩ := Option.map_eq_some_iff.1 hleft.symm
  cases he
  unfold afterCloser? at htail
  split at htail
  · cases htail
  · have hall := List.dropWhile_eq_nil_iff.1 (Option.some.inj htail)
    obtain ⟨x, hx, hnot⟩ : ∃ x ∈ form.closer, Text.isBlank x = false := by
      rcases CommentForm.closer_cases hform with h | h | h
      · exact absurd h hcloser
      · exact ⟨'*', by rw [h]; simp, by decide⟩
      · exact ⟨'-', by rw [h]; simp, by decide⟩
    rw [hall x (by simp [hx])] at hnot
    cases hnot

end Directive

/-! ## Cuts of a line that keeps what stands behind its comment -/

namespace DirectiveCut

/-- What stands behind the directive. -/
def behind (c : DirectiveCut) : Text := c.endGap ++ c.closing ++ c.tail

/-- A line begins with a comment that can be closed, and this is kept of it: what stands
behind the directive and the closer, with the blanks before the comment. -/
structure KeepsTail (c : DirectiveCut) (code : Text) : Prop where
  lead : Text.allBlank c.lead = true
  closes : c.form.closer ≠ []
  code : code = c.lead ++ Text.trim c.tail

variable {c c' : DirectiveCut} {t code : Text} {d d' : Directive}

/-- What is kept stands at the end of the code. -/
theorem KeepsTail.trimStart_code (h : c.KeepsTail code) :
    Text.trimStart code = Text.trim c.tail := by
  rw [h.code, Text.trimStart_append h.lead]
  exact Text.trimStart_of_head? (Text.isTrimmed_trim c.tail).1

/-- A line and what it keeps tell the form of the comment, whether its closer is left out,
and where what is kept begins. -/
theorem KeepsTail.unique (hc : c.text = t) (hc' : c'.text = t) (hd : c.Holds d)
    (hd' : c'.Holds d') (hblock : ∀ rs, d ≠ .ranges rs) (hblock' : ∀ rs, d' ≠ .ranges rs)
    (h : c.KeepsTail code) (h' : c'.KeepsTail code) (hcode : ¬ code <+: t) :
    c.form = c'.form ∧ c.closing = c'.closing ∧
      Text.trimStart c.tail = Text.trimStart c'.tail := by
  have htrim : Text.trim c.tail = Text.trim c'.tail :=
    h.trimStart_code.symm.trans h'.trimStart_code
  have hlead : c.lead = c'.lead := by
    refine @List.append_cancel_right _ _ (Text.trim c.tail) _ ?_
    rw [← h.code, htrim, ← h'.code]
  have hne : Text.trim c.tail ≠ [] := by
    intro hempty
    refine hcode ?_
    rw [h.code, hempty, List.append_nil, ← hc]
    simp only [DirectiveCut.text, List.append_assoc]
    exact List.prefix_append _ _
  obtain ⟨htail, b, b', hb, hb', hfront⟩ := Text.eq_of_trim_eq (hc.trans hc'.symm) htrim hne
  simp only [List.append_assoc, hlead, List.append_cancel_left_eq] at hfront
  -- the comments begin alike, so they have one form
  have hhead : c.form.opener.head? = c'.form.opener.head? := by
    obtain ⟨y, o, hopener, -⟩ := (CommentForm.isOpener hd.known).begins
    obtain ⟨y', o', hopener', -⟩ := (CommentForm.isOpener hd'.known).begins
    rw [hopener, hopener'] at hfront ⊢
    exact congrArg some (List.cons.inj hfront).1
  have hform : c.form = c'.form :=
    CommentForm.eq_of_head? hd.known hd'.known h.closes h'.closes hhead
  rw [hform, List.append_cancel_left_eq] at hfront
  -- the directives begin with the first character that is not blank
  have hword : c.written ++ (c.endGap ++ (c.closing ++ b)) =
      c'.written ++ (c'.endGap ++ (c'.closing ++ b')) := by
    have hbegins : ∀ {u : Text} (r : Text), Directive.word <+: u →
        Text.trimStart (u ++ r) = u ++ r := by
      rintro _ r ⟨u, rfl⟩
      exact Text.trimStart_cons (by decide) _
    have hstart := congrArg Text.trimStart hfront
    rw [Text.trimStart_append hd.gap, Text.trimStart_append hd'.gap, hbegins _ hd.word,
      hbegins _ hd'.word] at hstart
    exact hstart
  refine ⟨hform, ?_, htail⟩
  rcases hd.closing with hclosed | hopen <;> rcases hd'.closing with hclosed' | hopen'
  · rw [hclosed, hclosed', hform]
  · rw [hclosed, hopen', List.nil_append, ← List.append_assoc c.endGap] at hword
    exact absurd hword (Directive.ne_of_closer hd.known h.closes hblock hblock' hd.reads hd'.reads
      hd.endGap hb (Text.allBlank_append.2 ⟨hd'.endGap, hb'⟩))
  · rw [hopen, hclosed', List.nil_append, ← List.append_assoc c'.endGap] at hword
    exact absurd hword.symm (Directive.ne_of_closer hd'.known h'.closes hblock' hblock hd'.reads
      hd.reads hd'.endGap hb' (Text.allBlank_append.2 ⟨hd.endGap, hb⟩))
  · rw [hopen, hopen']

/-- The closer that is left out comes first behind the directive. -/
theorem KeepsTail.closer_isPrefix (hd : c.Holds d) (h : c.KeepsTail code)
    (hclosing : c.closing = c.form.closer) : c.form.closer <+: Text.trimStart c.behind := by
  have hcloser : ∀ r, Text.trimStart (c.form.closer ++ r) = c.form.closer ++ r := by
    intro r
    rcases CommentForm.closer_cases hd.known with h' | h' | h'
    · exact absurd h' h.closes
    all_goals
      rw [h']
      exact Text.trimStart_cons (by decide) _
  rw [behind, hclosing, List.append_assoc, Text.trimStart_append hd.endGap, hcloser]
  exact List.prefix_append _ _

theorem trimStart_behind (hd : c.Holds d) (hclosing : c.closing = []) :
    Text.trimStart c.behind = Text.trimStart c.tail := by
  rw [behind, hclosing, List.append_nil, Text.trimStart_append hd.endGap]

end DirectiveCut

/-- A reading whose answer is code that stands behind its comment. -/
theorem Reading.answer_eq_trailing {r : Reading} {line code : Text} {first : Bool} {d : Directive}
    (h : r.answer line first = some (.trailing code d)) :
    r.directive = d ∧ (∀ rs, d ≠ .ranges rs) ∧
      (code = Text.trimEnd r.lead ∨
        Text.allBlank r.lead = true ∧ r.form.closer ≠ [] ∧ code = r.lead ++ Text.trim r.tail) := by
  by_cases hblock : ∀ rs, r.directive ≠ .ranges rs
  · rw [answer_of_block hblock] at h
    split at h
    · split at h
      · cases h
      · cases h
        exact ⟨rfl, hblock, .inl rfl⟩
    · split at h
      · next hlead =>
        cases h
        exact ⟨rfl, hblock, .inr ⟨hlead.1, hlead.2, rfl⟩⟩
      · cases h
  · obtain ⟨rs, hrs⟩ := not_forall_not.1 hblock
    rw [answer, hrs] at h
    split at h <;> split at h <;> cases h

/-- A reading that keeps code behind its comment cuts the line, and the closer of the comment
is left out just if it comes first behind the directive. -/
theorem Reading.In.exists_keepsTail {r : Reading} {body code : Text} {d : Directive}
    (hr : r.In body) (hd : r.directive = d) (hblock : ∀ rs, d ≠ .ranges rs)
    (hkept : code = Text.trimEnd r.lead ∨
      Text.allBlank r.lead = true ∧ r.form.closer ≠ [] ∧ code = r.lead ++ Text.trim r.tail)
    (hfront : ¬ code <+: body) :
    ∃ c : DirectiveCut, c.text = body ∧ c.Holds d ∧ c.KeepsTail code ∧
      (c.closing = c.form.closer ↔ c.form.closer <+: Text.trimStart c.behind) := by
  obtain ⟨hknown, gap, hgap, hbefore⟩ := Directive.opener?_eq_some hr.opens
  rcases hkept with hcode | ⟨hlead, hcloser, hcode⟩
  · -- code in front of the comment is the beginning of the line
    refine absurd ?_ hfront
    rw [hcode, hr.cut, hbefore, List.append_assoc, List.append_assoc]
    exact List.prefix_append_of_prefix (Text.dropEndWhile_isPrefix Text.isBlank r.lead)
  · have hreads := hr.reads
    rw [hd] at hreads
    obtain ⟨written, after, hrest, hafter, hwritten⟩ :=
      Directive.read?_eq_some_of_block hblock hreads
    obtain ⟨endGap, closing, hblank, hclosing, hcut, hiff⟩ :=
      Directive.afterCloser?_eq_some hafter
    refine ⟨⟨r.lead, r.form, gap, written, endGap, closing, r.tail⟩, ?_,
      ⟨hknown, hgap, hblank, hclosing, hwritten.word, hwritten.read?_self⟩,
      ⟨hlead, hcloser, hcode⟩, ?_⟩
    · rw [hr.cut, hbefore, hrest, hcut]
      simp [DirectiveCut.text]
    · rw [hcut] at hiff
      exact hiff hcloser

namespace LineToken

/-- A line that keeps text behind a directive is cut at a comment that it begins with; and
this text lies outside the comment if and only if the closer of the comment comes right
behind the directive. -/
theorem closed_iff {line code : Text} {first : Bool} {d : Directive}
    (h : ofLine line first = .trailing code d) (hbehind : ¬ code <+: line) :
    (∃ c : DirectiveCut, c.text = body line ∧ c.Holds d ∧ c.KeepsTail code) ∧
    ∀ c : DirectiveCut, c.text = body line → c.Holds d → c.KeepsTail code →
      (c.closing = c.form.closer ↔ c.form.closer <+: Text.trimStart c.behind) := by
  rcases ofLine_cases_answer line first with ⟨hcode, -⟩ | ⟨r, hr, hanswer, -⟩
  · rw [hcode] at h
    cases h
  · rw [h] at hanswer
    obtain ⟨hd, hblock, hkept⟩ := Reading.answer_eq_trailing hanswer
    have hfront : ¬ code <+: body line :=
      fun hcode => hbehind (hcode.trans (Text.dropEndWhile_isPrefix _ line))
    obtain ⟨c, htext, hholds, hkeeps, hiff⟩ := hr.exists_keepsTail hd hblock hkept hfront
    refine ⟨⟨c, htext, hholds, hkeeps⟩, fun c' htext' hholds' hkeeps' => ?_⟩
    obtain ⟨hform, hclosing, htail⟩ :=
      hkeeps.unique htext htext' hholds hholds' hblock hblock hkeeps' hfront
    refine ⟨hkeeps'.closer_isPrefix hholds', fun hnext => hholds'.closing.resolve_right ?_⟩
    -- if the closer were not left out, it would not come first in the cut that is read
    intro hopen
    rw [DirectiveCut.trimStart_behind hholds' hopen, ← htail, ← hform] at hnext
    rw [← hclosing] at hopen
    rw [DirectiveCut.trimStart_behind hholds hopen, hopen] at hiff
    exact hkeeps.closes (hiff.2 hnext).symm

/-- Code behind a comment that is closed lies outside of it. -/
theorem closed_call :
    let line := " /* @highlight-start[2]*/ f()".toList
    ofLine line false = .trailing " f()".toList (.start (Level.clamp 2)) ∧
      ¬ " f()".toList <+: line ∧
      (∃ c : DirectiveCut, c.text = body line ∧ c.Holds (.start (Level.clamp 2)) ∧
        c.KeepsTail " f()".toList) ∧
      ∀ c : DirectiveCut, c.text = body line → c.Holds (.start (Level.clamp 2)) →
        c.KeepsTail " f()".toList →
        (c.closing = c.form.closer ↔ c.form.closer <+: Text.trimStart c.behind) := by
  intro line
  have htoken : ofLine line false = .trailing " f()".toList (.start (Level.clamp 2)) := by
    decide +kernel
  have hbehind : ¬ " f()".toList <+: line := by decide +kernel
  exact ⟨htoken, hbehind, closed_iff htoken hbehind⟩

/-- The line `/* @highlight-end note */`, cut in front of the note in its comment. -/
def noteCut : DirectiveCut where
  lead := []
  form := ⟨"/*", "*/"⟩
  gap := " "
  written := "@highlight-end"
  endGap := " "
  closing := []
  tail := "note */"

/-- A note in the comment of a directive is kept as code, although no closer stands
between the directive and the note. -/
theorem not_closed_note :
    let line := "/* @highlight-end note */".toList
    ofLine line false = .trailing "note */".toList .stop ∧ ¬ "note */".toList <+: line ∧
      ∀ c : DirectiveCut, c.text = body line → c.Holds .stop → c.KeepsTail "note */".toList →
        c.closing ≠ c.form.closer := by
  intro line
  have hbody : body line = line := by decide +kernel
  have hbehind : ¬ "note */".toList <+: line := by decide +kernel
  refine ⟨by decide +kernel, hbehind, fun c htext hholds hkeeps hclosing => ?_⟩
  -- the closer is not left out in one cut of the line, so it is left out in none
  have hnoteText : noteCut.text = line := by decide +kernel
  have hnoteHolds : noteCut.Holds .stop :=
    ⟨by decide, by decide, by decide, .inr rfl, by decide, by decide +kernel⟩
  have hnoteKeeps : noteCut.KeepsTail "note */".toList := ⟨rfl, by decide, by decide +kernel⟩
  obtain ⟨-, hopen, -⟩ := hnoteKeeps.unique hnoteText (htext.trans hbody) hnoteHolds hholds nofun
    nofun hkeeps hbehind
  exact hkeeps.closes (hclosing.symm.trans hopen.symm)

end LineToken

end PageHighlight
