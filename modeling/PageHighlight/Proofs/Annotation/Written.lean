/-
  Proofs/Annotation/Written.lean --- block directives in comments of every form are read.

  WHAT THIS FILE IS FOR.  A block directive can be written in three ways
  (`Directive.IsWritten`) and in six forms of comments, with blanks around it and code
  before the comment.  Where the only word of a directive in a line is that of such a
  comment at its end, the line is what the directive says (`LineToken.ofLine_comment`).

  ONE EXCEPTION.  What follows the name of a directive must not go on with it, and a
  hyphen does; so a directive with the closer `-->` right behind it is not read.
-/
import PageHighlight.Proofs.Annotation.Readings
import PageHighlight.Proofs.Text.Decimal

set_option autoImplicit false

namespace PageHighlight

theorem Text.not_isAlphanumeric_of_isBlank {c : Char} (h : isBlank c = true) :
    isAlphanumeric c = false := by
  have hdisjoint : disjointRanges blankRanges alphanumericRanges = true := by decide +kernel
  exact inRanges_of_disjointRanges hdisjoint h

/-! ## Comments of every form -/

namespace CommentForm

variable {form : CommentForm}

/-- An opener begins with no character of a directive's word, and ends with no blank. -/
structure IsOpener (opener : Text) : Prop where
  begins : ∃ y o, opener = y :: o ∧ y ∉ Directive.word ∧ '@' ∉ o
  ends : ∃ x, opener.getLast? = some x ∧ Text.isBlank x = false

theorem isOpener (h : form ∈ commentForms) : IsOpener form.opener := by
  simp only [commentForms, List.mem_cons, List.not_mem_nil, or_false] at h
  rcases h with rfl | rfl | rfl | rfl | rfl | rfl
  · exact ⟨⟨'<', "!--".toList, rfl, by decide, by decide⟩, '-', rfl, by decide⟩
  · exact ⟨⟨'/', "*".toList, rfl, by decide, by decide⟩, '*', rfl, by decide⟩
  · exact ⟨⟨'/', "/".toList, rfl, by decide, by decide⟩, '/', rfl, by decide⟩
  · exact ⟨⟨'-', "-".toList, rfl, by decide, by decide⟩, '-', rfl, by decide⟩
  · exact ⟨⟨'#', [], rfl, by decide, by decide⟩, '#', rfl, by decide⟩
  · exact ⟨⟨';', [], rfl, by decide, by decide⟩, ';', rfl, by decide⟩

end CommentForm

namespace Directive

/-- The code before a comment is what stands before its opener; only `--` may be the end
of a longer opener. -/
theorem opener?_append {form : CommentForm} (hform : form ∈ commentForms) {c w : Text}
    (hopener : form.opener = "--".toList → ¬ "<!".toList <:+ c) (hw : Text.allBlank w = true) :
    opener? (c ++ form.opener ++ w) = some (c, form) := by
  obtain ⟨x, hlast, hx⟩ := (CommentForm.isOpener hform).ends
  have hlast' : (c ++ form.opener).getLast? = some x := by rw [List.getLast?_append, hlast]; rfl
  have hself : Text.dropSuffix? form.opener (c ++ form.opener) = some c :=
    Text.dropSuffix?_eq_some.2 rfl
  rw [opener?, Text.trimEnd_append_of_allBlank hx hlast' hw]
  by_cases hlong : form = ⟨"<!--", "-->"⟩
  · -- the form that is tried first
    subst hlong
    simp only [commentForms, List.findSome?_cons, hself, Option.map_some]
  · have honly : ∀ g ∈ commentForms, g ≠ form →
        Text.dropSuffix? g.opener (c ++ form.opener) = none := by
      intro g hg hne
      have hends : ∀ f ∈ commentForms, ∀ g ∈ commentForms,
          f.opener.getLast? = g.opener.getLast? → g = f ∨ f = ⟨"<!--", "-->"⟩ ∨
            f.opener = "--".toList ∧ g.opener = "<!".toList ++ "--".toList := by decide
      cases hd : Text.dropSuffix? g.opener (c ++ form.opener) with
      | none => rfl
      | some r =>
        have hr := Text.dropSuffix?_eq_some.1 hd
        obtain ⟨y, hy, -⟩ := (CommentForm.isOpener hg).ends
        have hsame : form.opener.getLast? = g.opener.getLast? := by
          rw [hr, List.getLast?_append, hy] at hlast'
          rw [hlast, hy]
          exact hlast'.symm
        rcases hends form hform g hg hsame with heq | heq | ⟨hdashes, hmarkup⟩
        · exact absurd heq hne
        · exact absurd heq hlong
        · rw [hdashes, hmarkup, ← List.append_assoc] at hr
          exact absurd ⟨r, (List.append_cancel_right hr).symm⟩ (hopener hdashes)
    cases hfound : commentForms.findSome? fun g =>
        (Text.dropSuffix? g.opener (c ++ form.opener)).map fun code => (code, g) with
    | none =>
      have hnone := List.findSome?_eq_none_iff.1 hfound form hform
      rw [hself] at hnone
      cases hnone
    | some found =>
      obtain ⟨g, hg, hat⟩ := List.exists_of_findSome?_eq_some hfound
      by_cases hne : g = form
      · rw [hne, hself] at hat
        exact hat.symm
      · rw [honly g hg hne] at hat
        cases hat

/-! ## Block directives -/

/-- The ways to write a block directive: the word that closes a block, or the word that opens
one, alone or with a number in brackets. -/
inductive IsWritten : Text → Directive → Prop where
  | stop : IsWritten stopWord .stop
  | start : IsWritten startWord (.start Level.one)
  | startAt {digits : Text} {n : Nat} (h : digits.IsNumeral n) :
      IsWritten (startWord ++ '[' :: (digits ++ [']'])) (.start (Level.clamp n))

variable {written : Text} {d : Directive}

theorem IsWritten.ne_ranges (h : IsWritten written d) (rs : List LineRange) : d ≠ .ranges rs := by
  cases h <;> exact nofun

/-- The word that every directive begins with stands at the beginning of a block directive
and nowhere else in it. -/
theorem IsWritten.exists_word (h : IsWritten written d) :
    ∃ s, written = word ++ s ∧ '@' ∉ s := by
  cases h with
  | stop => exact ⟨"-end".toList, rfl, by decide⟩
  | start => exact ⟨"-start".toList, rfl, by decide⟩
  | @startAt digits n h =>
    refine ⟨"-start".toList ++ '[' :: (digits ++ [']']), rfl, fun hmem => ?_⟩
    have hdigits : '@' ∉ digits := fun hat => absurd (h.isDigit '@' hat) (by decide)
    simp [hdigits] at hmem

theorem IsWritten.exists_getLast? (h : IsWritten written d) :
    ∃ x, written.getLast? = some x ∧ decide (x = '\r') = false := by
  cases h with
  | stop => exact ⟨'d', rfl, by decide⟩
  | start => exact ⟨'t', rfl, by decide⟩
  | @startAt digits n h => exact ⟨']', by simp [List.getLast?_append, List.getLast?_cons], by decide⟩

theorem IsWritten.isBlock (h : IsWritten written d) : IsBlock written d := by
  cases h with
  | stop => exact isBlock_stop
  | start => exact isBlock_start rfl
  | @startAt digits n h =>
    refine isBlock_start ?_
    have hbracket : ']' ∉ digits := fun hmem => absurd (h.isDigit ']' hmem) (by decide)
    have hsplit : Text.split? "]".toList (digits ++ [']']) = some (digits, []) :=
      Text.split?_singleton_append hbracket []
    simp only [readLevel?, hsplit, Option.map_some, h.trim_eq, h.readNat?, Option.getD_some]

/-! ## Closers -/

theorem nameGoesOn_blank_append {w t : Text} (hw : Text.allBlank w = true) (hne : w ≠ []) :
    nameGoesOn (w ++ t) = false := by
  cases w with
  | nil => exact absurd rfl hne
  | cons b w =>
    have hb : Text.isBlank b = true := List.all_eq_true.1 hw b List.mem_cons_self
    have hhyphen : b ≠ '-' := by rintro rfl; exact absurd hb (by decide)
    have hunderscore : b ≠ '_' := by rintro rfl; exact absurd hb (by decide)
    simp [nameGoesOn, Text.not_isAlphanumeric_of_isBlank hb, hhyphen, hunderscore]

variable {form : CommentForm} {v w : Text}

/-- The name of a directive goes on behind it just if the closer `-->` follows at once. -/
theorem nameGoesOn_closer (hform : form ∈ commentForms) (hv : Text.allBlank v = true)
    (hw : Text.allBlank w = true) :
    nameGoesOn (v ++ form.closer ++ w) = true ↔ form.closer = "-->".toList ∧ v = [] := by
  cases v with
  | cons b v =>
    rw [List.append_assoc, nameGoesOn_blank_append hv (List.cons_ne_nil b v)]
    simp
  | nil =>
    rcases CommentForm.closer_cases hform with h | h | h <;> rw [h]
    · cases w with
      | nil => decide
      | cons b w =>
        have hw := nameGoesOn_blank_append (t := []) hw (List.cons_ne_nil b w)
        rw [List.append_nil] at hw
        simp [hw]
    · have hstar : nameGoesOn ('*' :: '/' :: w) = false := by
        have hletter : Text.isAlphanumeric '*' = false := by decide +kernel
        simp [nameGoesOn, hletter]
      simp [hstar]
    · simp [nameGoesOn]

theorem head?_blanks_ne (hw : Text.allBlank w = true) : w.head? ≠ some '[' := by
  intro hhead
  have hbracket := List.all_eq_true.1 hw '[' (List.mem_of_mem_head? hhead)
  exact absurd hbracket (by decide)

theorem head?_closer_ne (hform : form ∈ commentForms) (hv : Text.allBlank v = true)
    (hw : Text.allBlank w = true) : (v ++ form.closer ++ w).head? ≠ some '[' := by
  rw [List.append_assoc, List.head?_append]
  cases hhead : v.head? with
  | some b =>
    rw [Option.some_or, ← hhead]
    exact head?_blanks_ne hv
  | none =>
    rw [Option.none_or]
    rcases CommentForm.closer_cases hform with h | h | h <;> rw [h]
    · exact head?_blanks_ne hw
    · simp
    · simp

/-- Nothing but blanks is left of a line behind a directive and its closer, if the name of
the directive does not go on. -/
theorem afterCloser?_closer (hform : form ∈ commentForms) (hv : Text.allBlank v = true)
    (hw : Text.allBlank w = true) (hname : nameGoesOn (v ++ form.closer ++ w) = false) :
    ∃ tail, afterCloser? form.closer (v ++ form.closer ++ w) = some tail ∧
      Text.allBlank tail = true := by
  rw [afterCloser?, if_neg (by rw [hname]; exact Bool.false_ne_true), List.append_assoc,
    Text.trimStart_append hv]
  refine ⟨_, rfl, ?_⟩
  rcases CommentForm.closer_cases hform with h | h | h <;> rw [h]
  · exact Text.allBlank_of_suffix (List.dropWhile_suffix _) hw
  · have htrim : Text.trimStart ("*/".toList ++ w) = "*/".toList ++ w :=
      Text.trimStart_cons (by decide) _
    rw [htrim, Text.dropPrefix?_eq_some.2 rfl]
    exact hw
  · have htrim : Text.trimStart ("-->".toList ++ w) = "-->".toList ++ w :=
      Text.trimStart_cons (by decide) _
    rw [htrim, Text.dropPrefix?_eq_some.2 rfl]
    exact hw

end Directive

/-! ## Lines with one directive -/

namespace LineToken

open Directive (IsWritten)

variable {c w₁ written w₂ w₃ : Text} {form : CommentForm} {d : Directive}

/-- Carriage returns at the end of a line are blanks behind the directive or its closer. -/
theorem exists_body (before : Text) (hform : form ∈ commentForms) (hd : IsWritten written d)
    (hw₂ : Text.allBlank w₂ = true) (hw₃ : Text.allBlank w₃ = true) :
    ∃ v w, Text.allBlank v = true ∧ Text.allBlank w = true ∧ (form.closer ≠ [] → v = w₂) ∧
      body (before ++ written ++ w₂ ++ form.closer ++ w₃) =
        before ++ (written ++ (v ++ form.closer ++ w)) := by
  have hcut : ∀ {t : Text} {x : Char}, decide (x = '\r') = false → t.getLast? = some x →
      body (t ++ w₃) = t ++ body w₃ := fun hx hlast => Text.dropEndWhile_append hx hlast w₃
  have hblank : Text.allBlank (body w₃) = true :=
    Text.allBlank_of_isPrefix (Text.dropEndWhile_isPrefix _ _) hw₃
  rcases CommentForm.closer_cases hform with h | h | h
  · obtain ⟨x, hlast, hx⟩ := hd.exists_getLast?
    refine ⟨body (w₂ ++ w₃), [], ?_, rfl, fun hne => absurd h hne, ?_⟩
    · exact Text.allBlank_of_isPrefix (Text.dropEndWhile_isPrefix _ _)
        (Text.allBlank_append.2 ⟨hw₂, hw₃⟩)
    · have hlast' : (before ++ written).getLast? = some x := by
        rw [List.getLast?_append, hlast]
        rfl
      have hdrop := Text.dropEndWhile_append (p := (· = '\r')) hx hlast' (w₂ ++ w₃)
      rw [h, List.append_nil, List.append_nil, List.append_nil, List.append_assoc _ w₂ w₃, body,
        hdrop, List.append_assoc]
  · refine ⟨w₂, body w₃, hw₂, hblank, fun _ => rfl, ?_⟩
    rw [hcut (x := '/') (by decide) (by rw [h]; simp [List.getLast?_append])]
    simp only [List.append_assoc]
  · refine ⟨w₂, body w₃, hw₂, hblank, fun _ => rfl, ?_⟩
    rw [hcut (x := '>') (by decide) (by rw [h]; simp [List.getLast?_append])]
    simp only [List.append_assoc]

/-- The word of the directive stands at one place in the line. -/
theorem eq_of_word (hc : ¬ Directive.word <:+: c) (hform : form ∈ commentForms)
    (hw₁ : Text.allBlank w₁ = true) (hd : IsWritten written d) {v w a b : Text}
    (hv : Text.allBlank v = true) (hw : Text.allBlank w = true)
    (h : c ++ form.opener ++ w₁ ++ (written ++ (v ++ form.closer ++ w)) = a ++ b)
    (hb : Directive.word <+: b) : a = c ++ form.opener ++ w₁ := by
  have hblank : ∀ u : Text, Text.allBlank u = true → '@' ∉ u :=
    fun u hu hat => absurd (List.all_eq_true.1 hu '@' hat) (by decide)
  have hcloser : '@' ∉ form.closer := by
    rcases CommentForm.closer_cases hform with h | h | h <;> rw [h] <;> decide
  obtain ⟨s, rfl, hs⟩ := hd.exists_word
  obtain ⟨y, o, hopener, hy, ho⟩ := (CommentForm.isOpener hform).begins
  have hrest : '@' ∉ "highlight".toList ++ (s ++ (v ++ form.closer ++ w)) := by
    simp [hs, hcloser, hblank v hv, hblank w hw]
  have hbetween : '@' ∉ o ++ w₁ := by simp [ho, hblank w₁ hw₁]
  have hcut : c ++ (y :: (o ++ w₁)) ++ Directive.word ++ (s ++ (v ++ form.closer ++ w)) =
      a ++ b := by
    rw [← h, hopener]
    simp only [List.append_assoc, List.cons_append]
  rw [hopener, List.append_assoc, List.cons_append]
  exact Text.eq_of_begins_with hc hy hbetween hrest hcut hb

/-- A line whose only directive is a block directive in a comment at its end is what the
directive says: nothing but the directive, or the code before the comment and the directive.
There is one exception: with the closer `-->` right behind the directive it is code. -/
theorem ofLine_comment (hc : ¬ Directive.word <:+: c) (hform : form ∈ commentForms)
    (hopener : form.opener = "--".toList → ¬ "<!".toList <:+ c)
    (hw₁ : Text.allBlank w₁ = true) (hw₂ : Text.allBlank w₂ = true)
    (hw₃ : Text.allBlank w₃ = true) (hd : IsWritten written d) (first : Bool) :
    let line := c ++ form.opener ++ w₁ ++ written ++ w₂ ++ form.closer ++ w₃
    ofLine line first =
      if form.closer = "-->".toList ∧ w₂ = [] then .code line
      else if Text.allBlank c = true then .whole d
      else .trailing (Text.trimEnd c) d := by
  intro line
  obtain ⟨v, w, hv, hw, hsame, hbody⟩ :=
    exists_body (c ++ form.opener ++ w₁) hform hd hw₂ hw₃
  have hopens := Directive.opener?_append hform hopener hw₁
  have hread := hd.isBlock.reads form.closer _ (Directive.head?_closer_ne hform hv hw)
  have hplace : ofLine line first =
      (at? line (c ++ form.opener ++ w₁) (written ++ (v ++ form.closer ++ w)) first).getD
        (.code line) := by
    have hword : Directive.word <+: written ++ (v ++ form.closer ++ w) := by
      obtain ⟨s, hs, -⟩ := hd.exists_word
      rw [hs, List.append_assoc]
      exact List.prefix_append _ _
    have hunique := Text.findSome?_occurrences_of_unique (by decide) hbody hword
      (f := fun q => at? line q.1 q.2 first)
      fun a b h hb => eq_of_word hc hform hw₁ hd hv hw (hbody.symm.trans h) hb
    exact congrArg (Option.getD · (.code line)) hunique
  -- the name goes on behind the directive only in the exception
  have hname : (form.closer = "-->".toList ∧ w₂ = []) ↔
      Directive.nameGoesOn (v ++ form.closer ++ w) = true := by
    rw [Directive.nameGoesOn_closer hform hv hw]
    refine and_congr_right fun hcloser => ?_
    rw [hsame (by rw [hcloser]; decide)]
  rw [hplace]
  split
  · next hglued =>
    have hafter : Directive.afterCloser? form.closer (v ++ form.closer ++ w) = none := by
      rw [Directive.afterCloser?, if_pos (hname.1 hglued)]
    simp only [at?, hopens, hread, hafter, Option.bind_eq_bind, Option.bind_some, Option.map_none,
      Option.bind_none, Option.getD_none]
  · next hglued =>
    obtain ⟨tail, htail, hblank⟩ := Directive.afterCloser?_closer hform hv hw
      (Bool.eq_false_iff.2 fun h => hglued (hname.2 h))
    rw [htail] at hread
    have hin : Reading.In ⟨c ++ form.opener ++ w₁, written ++ (v ++ form.closer ++ w), c, form, d,
        tail⟩ (body line) := ⟨hbody, hopens, hread⟩
    rw [hin.at?_eq, Reading.answer_of_block hd.ne_ranges, if_pos hblank]
    split <;> rfl

/-- A level above the highest in a comment with a closer, behind code that ends with a
hyphen. -/
theorem ofLine_comment_clamped :
    let c := "i--".toList
    let written := "@highlight-start[007]".toList
    let line := c ++ "<!--".toList ++ " ".toList ++ written ++ " ".toList ++ "-->".toList ++ []
    ¬ Directive.word <:+: c ∧ IsWritten written (.start (Level.clamp 7)) ∧
      ofLine line true = .trailing "i--".toList (.start (Level.clamp 7)) := by
  intro c written line
  have hc : ¬ Directive.word <:+: c := by decide
  have hnumeral : Text.IsNumeral "007".toList 7 :=
    ⟨by decide, List.all_eq_true.1 (by decide), by decide, by decide +kernel⟩
  have hd : IsWritten written (.start (Level.clamp 7)) := .startAt hnumeral
  exact ⟨hc, hd, @ofLine_comment c " ".toList written " ".toList [] ⟨"<!--", "-->"⟩ _ hc (by decide)
    (by decide) (by decide) (by decide) (by decide) hd true⟩

/-- The directive in `<!-- @highlight-end-->` is not read. -/
theorem not_ofLine_comment_glued :
    ¬ ∀ (c w₁ written w₂ w₃ : Text) (form : CommentForm) (d : Directive) (first : Bool),
      ¬ Directive.word <:+: c → form ∈ commentForms →
      (form.opener = "--".toList → ¬ "<!".toList <:+ c) → Text.allBlank w₁ = true →
      Text.allBlank w₂ = true → Text.allBlank w₃ = true → IsWritten written d →
      ofLine (c ++ form.opener ++ w₁ ++ written ++ w₂ ++ form.closer ++ w₃) first =
        if Text.allBlank c = true then .whole d else .trailing (Text.trimEnd c) d := by
  intro h
  have hread := h [] " ".toList "@highlight-end".toList [] [] ⟨"<!--", "-->"⟩ .stop false
    (by decide) (by decide) (by decide) (by decide) (by decide) (by decide) .stop
  have hcode : ofLine "<!-- @highlight-end-->".toList false =
      .code "<!-- @highlight-end-->".toList := by decide +kernel
  exact absurd (hcode.symm.trans hread) (by decide)

end LineToken

end PageHighlight
