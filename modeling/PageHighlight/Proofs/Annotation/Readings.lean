/-
  Proofs/Annotation/Readings.lean --- the directives that are read in a line, and the one
  that decides what the line is.

  WHAT THIS FILE IS FOR.  A directive is read at each place of a line where its word
  follows the opener of a comment (`Reading.In`).  A reading has an answer to what the
  line is, or none (`Reading.answer`), and the first reading that has one decides
  (`ofLine_cases_answer`).

  WHICH READINGS ANSWER.  A block directive is taken if nothing but blanks follows it and
  its closer, or if it begins the line in a comment that is closed.  A list of ranges is
  taken if it has the first line for itself; any other is stray, and its answer is that
  the line is code.  So a line is not code if and only if a reading is taken and no
  stray one stands before it (`ofLine_ne_code_iff_taken`).

  LOOK-ALIKES.  A block directive with nothing but blanks behind it is hidden by a stray
  list of ranges before it, in a string say, and by nothing else
  (`LineToken.ofLine_ne_code_iff`).
-/
import Mathlib.Data.Nat.Find
import PageHighlight.Proofs.Annotation.Comments
import PageHighlight.Proofs.Text.Occurrences

set_option autoImplicit false

namespace PageHighlight

/-- A directive that is read in a comment of a line. -/
structure Reading where
  /-- The line up to the directive. -/
  before : Text
  /-- The line from the directive on. -/
  rest : Text
  /-- The code before the comment. -/
  lead : Text
  /-- The form of the comment. -/
  form : CommentForm
  /-- What is read. -/
  directive : Directive
  /-- What follows the directive and the closer of the comment. -/
  tail : Text

namespace Reading

/-- A comment opens in front of the directive, and the directive is read there. -/
structure In (r : Reading) (body : Text) : Prop where
  cut : body = r.before ++ r.rest
  opens : Directive.opener? r.before = some (r.lead, r.form)
  reads : Directive.read? r.form.closer r.rest = some (r.directive, r.tail)

/-- What the line is because of this directive, if it is anything because of it. -/
def answer (r : Reading) (line : Text) (first : Bool) : Option LineToken :=
  match r.directive, Text.allBlank r.lead, Text.allBlank r.tail with
  | .ranges rs, leadBlank, tailBlank =>
    if leadBlank && tailBlank && first then some (.whole (.ranges rs)) else some (.code line)
  | d, true, true => some (.whole d)
  | d, false, true => some (.trailing (Text.trimEnd r.lead) d)
  | d, true, false =>
    if r.form.closer.isEmpty then none else some (.trailing (r.lead ++ Text.trim r.tail) d)
  | _, false, false => none

/-- A directive that makes a line more than code: a block directive with nothing behind it,
or with code behind the comment that it begins the line with, or a list of ranges that has
the first line for itself. -/
def IsTaken (r : Reading) (first : Bool) : Prop :=
  match r.directive with
  | .ranges _ => first = true ∧ Text.allBlank r.lead = true ∧ Text.allBlank r.tail = true
  | _ => Text.allBlank r.tail = true ∨ Text.allBlank r.lead = true ∧ r.form.closer ≠ []

/-- A list of ranges that does not have the first line for itself. -/
def IsStray (r : Reading) (first : Bool) : Prop :=
  (∃ rs, r.directive = .ranges rs) ∧
    ¬ (first = true ∧ Text.allBlank r.lead = true ∧ Text.allBlank r.tail = true)

/-- A block directive with nothing but blanks behind it and the closer of its comment. -/
structure EndsLine (r : Reading) : Prop where
  block : ∀ rs, r.directive ≠ .ranges rs
  tail : Text.allBlank r.tail = true

variable {r s : Reading} {body line : Text} {first : Bool}

theorem In.word (hr : r.In body) : Directive.word <+: r.rest := by
  obtain ⟨written, endGap, closing, hrest, -, -, hword, -⟩ := Directive.read?_eq_some hr.reads
  rw [hrest, List.append_assoc, List.append_assoc]
  exact List.prefix_append_of_prefix hword

/-- Two readings at one place are the same. -/
theorem In.eq_of_length (hr : r.In body) (hs : s.In body)
    (h : r.before.length = s.before.length) : r = s := by
  obtain ⟨before, rest, lead, form, directive, tail⟩ := r
  obtain ⟨before', rest', lead', form', directive', tail'⟩ := s
  obtain ⟨hbefore, hrest⟩ := List.append_inj (hr.cut.symm.trans hs.cut) h
  obtain rfl : before = before' := hbefore
  obtain rfl : rest = rest' := hrest
  have hopens := hr.opens.symm.trans hs.opens
  cases hopens
  have hreads := hr.reads.symm.trans hs.reads
  cases hreads
  rfl

/-! ## Answers -/

theorem In.at?_eq (hr : r.In body) (line : Text) (first : Bool) :
    LineToken.at? line r.before r.rest first = r.answer line first := by
  obtain ⟨before, rest, lead, form, directive, tail⟩ := r
  have hopens : Directive.opener? before = some (lead, form) := hr.opens
  have hreads : Directive.read? form.closer rest = some (directive, tail) := hr.reads
  simp only [LineToken.at?, answer, hopens, hreads, Option.bind_eq_bind, Option.bind_some,
    Text.isEmpty_trim]
  cases directive <;> cases Text.allBlank lead <;> cases Text.allBlank tail <;> rfl

theorem exists_in_of_at? {before rest : Text} {token : LineToken}
    (h : LineToken.at? line before rest first = some token) :
    ∃ r : Reading, r.before = before ∧ r.rest = rest ∧ r.In (before ++ rest) ∧
      r.answer line first = some token := by
  have hat := h
  simp only [LineToken.at?, Option.bind_eq_bind, Option.bind_eq_some_iff] at h
  obtain ⟨⟨lead, form⟩, hopens, ⟨d, tail⟩, hreads, -⟩ := h
  have hr : In ⟨before, rest, lead, form, d, tail⟩ (before ++ rest) := ⟨rfl, hopens, hreads⟩
  exact ⟨_, rfl, rfl, hr, (hr.at?_eq line first).symm.trans hat⟩

/-- What a line is because of a block directive in it. -/
theorem answer_of_block (hblock : ∀ rs, r.directive ≠ .ranges rs) (line : Text) (first : Bool) :
    r.answer line first =
      if Text.allBlank r.tail = true then
        if Text.allBlank r.lead = true then some (.whole r.directive)
        else some (.trailing (Text.trimEnd r.lead) r.directive)
      else if Text.allBlank r.lead = true ∧ r.form.closer ≠ [] then
        some (.trailing (r.lead ++ Text.trim r.tail) r.directive)
      else none := by
  obtain ⟨before, rest, lead, ⟨opener, closer⟩, directive, tail⟩ := r
  cases directive with
  | ranges rs => exact absurd rfl (hblock rs)
  | start level | stop =>
    simp only [answer]
    cases Text.allBlank lead <;> cases Text.allBlank tail <;> cases closer <;> rfl

theorem isTaken_of_block (hblock : ∀ rs, r.directive ≠ .ranges rs) :
    r.IsTaken first ↔
      Text.allBlank r.tail = true ∨ Text.allBlank r.lead = true ∧ r.form.closer ≠ [] := by
  obtain ⟨before, rest, lead, form, directive, tail⟩ := r
  cases directive with
  | ranges rs => exact absurd rfl (hblock rs)
  | start level | stop => exact Iff.rfl

theorem EndsLine.isTaken (h : r.EndsLine) (first : Bool) : r.IsTaken first :=
  (isTaken_of_block h.block).2 (.inl h.tail)

theorem IsTaken.exists_answer (h : r.IsTaken first) (line : Text) :
    ∃ token, r.answer line first = some token ∧ ∀ text, token ≠ .code text := by
  by_cases hblock : ∀ rs, r.directive ≠ .ranges rs
  · rw [answer_of_block hblock]
    rw [isTaken_of_block hblock] at h
    split
    · split <;> exact ⟨_, rfl, nofun⟩
    · next htail =>
      rw [if_pos (h.resolve_left htail)]
      exact ⟨_, rfl, nofun⟩
  · obtain ⟨before, rest, lead, form, directive, tail⟩ := r
    obtain ⟨rs, hrs⟩ := not_forall_not.1 hblock
    obtain rfl : directive = .ranges rs := hrs
    obtain ⟨hfirst, hlead, htail⟩ := h
    have hlead : Text.allBlank lead = true := hlead
    have htail : Text.allBlank tail = true := htail
    exact ⟨.whole (.ranges rs), by simp [answer, hfirst, hlead, htail], nofun⟩

theorem IsStray.answer_eq (h : r.IsStray first) (line : Text) :
    r.answer line first = some (.code line) := by
  obtain ⟨before, rest, lead, form, directive, tail⟩ := r
  obtain ⟨⟨rs, hrs⟩, hnot⟩ := h
  obtain rfl : directive = .ranges rs := hrs
  have hnot : ¬ ((Text.allBlank lead && Text.allBlank tail && first) = true) := by
    rw [Bool.and_eq_true, Bool.and_eq_true]
    exact fun hall => hnot ⟨hall.2, hall.1⟩
  simp only [answer, hnot]
  rfl

/-- A reading that has an answer is taken or stray. -/
theorem isTaken_or_isStray {token : LineToken} (h : r.answer line first = some token) :
    r.IsTaken first ∨ r.IsStray first := by
  by_cases hblock : ∀ rs, r.directive ≠ .ranges rs
  · refine .inl ((isTaken_of_block hblock).2 ?_)
    rw [answer_of_block hblock] at h
    split at h
    · next htail => exact .inl htail
    · split at h
      · next hlead => exact .inr hlead
      · cases h
  · obtain ⟨before, rest, lead, form, directive, tail⟩ := r
    obtain ⟨rs, hrs⟩ := not_forall_not.1 hblock
    obtain rfl : directive = .ranges rs := hrs
    by_cases hall : first = true ∧ Text.allBlank lead = true ∧ Text.allBlank tail = true
    · exact .inl hall
    · exact .inr ⟨⟨rs, rfl⟩, hall⟩

theorem IsTaken.not_isStray (h : r.IsTaken first) : ¬ r.IsStray first := by
  intro hstray
  obtain ⟨token, htoken, hnot⟩ := h.exists_answer []
  rw [hstray.answer_eq] at htoken
  cases htoken
  exact hnot [] rfl

end Reading

/-! ## The reading that decides -/

namespace LineToken

/-- A line without the carriage returns at its end. -/
abbrev body (line : Text) : Text := Text.dropEndWhile (· = '\r') line

/-- A line is what the first reading says that has an answer, and code if none has. -/
theorem ofLine_cases_answer (line : Text) (first : Bool) :
    (ofLine line first = .code line ∧ ∀ r : Reading, r.In (body line) → r.answer line first = none) ∨
      ∃ r : Reading, r.In (body line) ∧ r.answer line first = some (ofLine line first) ∧
        ∀ s : Reading, s.In (body line) → s.before.length < r.before.length →
          s.answer line first = none := by
  have hword : Directive.word ≠ [] := by decide
  -- what a place says is what the reading there says
  have hplace : ∀ s : Reading, s.In (body line) →
      (s.before, s.rest) ∈ Text.occurrences Directive.word (body line) :=
    fun s hs => (Text.mem_occurrences hword).2 ⟨hs.cut, hs.word⟩
  cases hfound : (Text.occurrences Directive.word (body line)).findSome? fun q =>
      at? line q.1 q.2 first with
  | none =>
    refine .inl ⟨?_, fun r hr => ?_⟩
    · simp only [ofLine, body] at hfound ⊢
      rw [hfound]
      rfl
    · rw [← hr.at?_eq]
      exact List.findSome?_eq_none_iff.1 hfound _ (hplace r hr)
  | some token =>
    have htoken : ofLine line first = token := by
      simp only [ofLine, body] at hfound ⊢
      rw [hfound]
      rfl
    obtain ⟨a, b, hab, -, hat, hfirst⟩ :=
      (Text.findSome?_occurrences_eq_some_iff hword).1 hfound
    obtain ⟨r, rfl, rfl, hr, hanswer⟩ := Reading.exists_in_of_at? hat
    rw [← hab] at hr
    refine .inr ⟨r, hr, htoken ▸ hanswer, fun s hs hlt => ?_⟩
    rw [← hs.at?_eq]
    exact hfirst s.before s.rest hs.cut hs.word hlt

/-- A line is not code if and only if a directive in it is taken and no stray list of
ranges stands before it. -/
theorem ofLine_ne_code_iff_taken (line : Text) (first : Bool) :
    (∀ text, ofLine line first ≠ .code text) ↔
      ∃ r : Reading, r.In (body line) ∧ r.IsTaken first ∧
        ∀ s : Reading, s.In (body line) → s.before.length < r.before.length →
          ¬ s.IsStray first := by
  rcases ofLine_cases_answer line first with ⟨hcode, hnone⟩ | ⟨r, hr, hanswer, hfirst⟩
  · refine iff_of_false (fun h => h line hcode) ?_
    rintro ⟨r, hr, htaken, -⟩
    obtain ⟨token, htoken, -⟩ := htaken.exists_answer line
    rw [hnone r hr] at htoken
    cases htoken
  · constructor
    · intro hcode
      refine ⟨r, hr, ?_, fun s hs hlt hstray => ?_⟩
      · refine (Reading.isTaken_or_isStray hanswer).resolve_right fun hstray => ?_
        rw [hstray.answer_eq] at hanswer
        exact hcode line (Option.some.inj hanswer).symm
      · have hnone := hfirst s hs hlt
        rw [hstray.answer_eq] at hnone
        cases hnone
    · rintro ⟨u, hu, htaken, hnostray⟩ text hcode
      obtain ⟨token, htoken, hnot⟩ := htaken.exists_answer line
      rcases Nat.lt_trichotomy r.before.length u.before.length with hlt | heq | hgt
      · rcases Reading.isTaken_or_isStray hanswer with htaken' | hstray
        · obtain ⟨token', htoken', hnot'⟩ := htaken'.exists_answer line
          rw [hanswer, hcode] at htoken'
          exact hnot' text (Option.some.inj htoken').symm
        · exact hnostray r hr hlt hstray
      · obtain rfl := hr.eq_of_length hu heq
        rw [hanswer, hcode] at htoken
        exact hnot text (Option.some.inj htoken).symm
      · rw [hfirst u hu hgt] at htoken
        cases htoken

/-- A line with a block directive that ends it is not code, whatever stands before the
directive, if and only if each stray list of ranges before it has a directive before it
that is taken; in particular if there is no stray list of ranges before it. -/
theorem ofLine_ne_code_iff {line : Text} {first : Bool} {r : Reading} (hr : r.In (body line))
    (hends : r.EndsLine) :
    (∀ text, ofLine line first ≠ .code text) ↔
      ∀ s : Reading, s.In (body line) → s.before.length < r.before.length → s.IsStray first →
        ∃ u : Reading, u.In (body line) ∧ u.before.length < s.before.length ∧
          u.IsTaken first := by
  rw [ofLine_ne_code_iff_taken]
  constructor
  · rintro ⟨u, hu, htaken, hnostray⟩ s hs - hstray
    refine ⟨u, hu, ?_, htaken⟩
    rcases Nat.lt_trichotomy u.before.length s.before.length with hlt | heq | hgt
    · exact hlt
    · obtain rfl := hu.eq_of_length hs heq
      exact absurd hstray htaken.not_isStray
    · exact absurd hstray (hnostray s hs hgt)
  · intro h
    -- the first directive that is taken has no stray list of ranges before it
    have hsome : ∃ n, ∃ u : Reading, u.In (body line) ∧ u.IsTaken first ∧ u.before.length = n :=
      ⟨_, r, hr, hends.isTaken first, rfl⟩
    classical
    obtain ⟨u, hu, htaken, hn⟩ := Nat.find_spec hsome
    have hleast : ∀ v : Reading, v.In (body line) → v.IsTaken first →
        u.before.length ≤ v.before.length := by
      intro v hv hv'
      rw [hn]
      exact Nat.find_min' hsome ⟨v, hv, hv', rfl⟩
    refine ⟨u, hu, htaken, fun s hs hlt hstray => ?_⟩
    have hle := hleast r hr (hends.isTaken first)
    obtain ⟨v, hv, hvs, hv'⟩ := h s hs (Nat.lt_of_lt_of_le hlt hle) hstray
    have := hleast v hv hv'
    omega

/-- A line with its directive at the end, and look-alikes before it. -/
def lookAlikes : Text :=
  "log('@highlight: 1'); s = \x22// @highlight-end\x22; // @highlight-start[3]"

/-- The directive at the end of `lookAlikes`. -/
def lookAlikesEnd : Reading where
  before := "log('@highlight: 1'); s = \x22// @highlight-end\x22; // ".toList
  rest := "@highlight-start[3]".toList
  lead := "log('@highlight: 1'); s = \x22// @highlight-end\x22; ".toList
  form := ⟨"//", ""⟩
  directive := .start (Level.clamp 3)
  tail := []

/-- No list of ranges in a comment stands in `lookAlikes`, so the directive at its end is
not hidden. -/
theorem ofLine_ne_code_lookAlikes :
    lookAlikesEnd.In (body lookAlikes) ∧ lookAlikesEnd.EndsLine ∧
      ∀ text, ofLine lookAlikes false ≠ .code text := by
  have hin : lookAlikesEnd.In (body lookAlikes) :=
    ⟨by decide +kernel, by decide +kernel, by decide +kernel⟩
  have hends : lookAlikesEnd.EndsLine := ⟨nofun, rfl⟩
  refine ⟨hin, hends, (ofLine_ne_code_iff hin hends).2 fun s hs _ hstray => ?_⟩
  obtain ⟨⟨rs, hrs⟩, -⟩ := hstray
  have hnone : ∀ q ∈ Text.occurrences Directive.word (body lookAlikes),
      ((Directive.opener? q.1).bind fun o => Directive.read? o.2.closer q.2).all
        fun d => match d.1 with | .ranges _ => false | _ => true := by decide +kernel
  have hplace := (Text.mem_occurrences (by decide)).2 ⟨hs.cut, hs.word⟩
  have hat := hnone _ hplace
  rw [hs.opens, Option.bind_some, hs.reads, hrs] at hat
  cases hat

/-- A list of ranges in a string hides the directive at the end of the line. -/
theorem ofLine_code_hidden :
    let line := "s = \x22// @highlight: 1\x22; // @highlight-end".toList
    (∃ r : Reading, r.In (body line) ∧ r.EndsLine) ∧ ofLine line false = .code line := by
  refine ⟨⟨⟨"s = \x22// @highlight: 1\x22; // ".toList, "@highlight-end".toList,
    "s = \x22// @highlight: 1\x22; ".toList, ⟨"//", ""⟩, .stop, []⟩, ⟨?_, ?_, ?_⟩, nofun, rfl⟩,
    by decide +kernel⟩
  all_goals decide +kernel

end LineToken

end PageHighlight
