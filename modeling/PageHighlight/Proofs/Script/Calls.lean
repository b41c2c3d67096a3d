/-
  Proofs/Script/Calls.lean --- the configurations that scripts build.

  WHAT THIS FILE IS FOR.  A script may be written in any language and may fail wherever it
  likes; what becomes of the configuration is what its calls make of it, one after another
  (`ScriptLanguage.evalAll_eq`), and a call makes the change that it asks for, and no other
  (`Script.runCalls_eq`).  So what holds after every sequence of calls holds after every
  sequence of scripts: the configuration is well formed, and a language that was allowed is
  allowed until the languages are cleared.
-/
import PageHighlight.Proofs.ConfigChange
import PageHighlight.Script.Calls

set_option autoImplicit false

namespace PageHighlight

namespace Script

/-! ## Calls -/

theorem runCalls_append (calls more : List Call) (c : Config) :
    runCalls (calls ++ more) c = runCalls more (runCalls calls c) := List.foldl_append

theorem Call.run_eq (call : Call) (c : Config) : call.run c = c.applyAll call.change?.toList := by
  unfold run
  cases call.change? <;> rfl

/-- Calls make the changes that they ask for. -/
theorem runCalls_eq (calls : List Call) (c : Config) :
    runCalls calls c = c.applyAll (calls.filterMap Call.change?) := by
  induction calls generalizing c with
  | nil => rfl
  | cons call calls ih =>
    change runCalls calls (call.run c) = _
    rw [ih, call.run_eq, ← Config.applyAll_append, List.filterMap_cons]
    cases call.change? <;> rfl

/-! ## Languages -/

/-- The call that allows a language. -/
def Call.allowLanguage (tag : Text) : Call := ⟨"allow_language", [.text tag]⟩

/-- The call that clears the languages. -/
def Call.clearLanguages : Call := ⟨"clear_languages", []⟩

theorem Call.change?_allowLanguage (tag : Text) :
    (allowLanguage tag).change? = some (.allowLanguage tag) := rfl

/-- No other call clears the languages. -/
theorem Call.eq_clearLanguages {call : Call} (h : call.change? = some .clearLanguages) :
    call = clearLanguages := by
  obtain ⟨function, arguments⟩ := call
  unfold change? at h
  split at h
  · next harguments =>
    split_ifs at h with hname
    exact congrArg₂ Call.mk hname harguments
  · obtain ⟨entry, hentry, hclear⟩ := Option.map_eq_some_iff.1 h
    have hmem := List.mem_of_find?_eq_some hentry
    simp only [textFunctions, List.mem_cons, List.not_mem_nil, or_false] at hmem
    rcases hmem with rfl | rfl | rfl | rfl | rfl | rfl | rfl | rfl <;> cases hclear
  · split_ifs at h
    cases h
  · cases h

/-- A language is allowed, under each of its tags, after it was allowed and the languages were
not cleared since. -/
theorem allows_runCalls {tag tag' : Text} {after : List Call}
    (hafter : Call.clearLanguages ∉ after)
    (htag : Language.canonicalTag tag' = Language.canonicalTag tag) (before : List Call)
    (c : Config) :
    (runCalls (before ++ Call.allowLanguage tag :: after) c).allows tag' = true := by
  rw [runCalls_eq, List.filterMap_append, List.filterMap_cons, Call.change?_allowLanguage]
  refine Config.allows_applyAll (fun hmem => ?_) htag _ c
  obtain ⟨call, hcall, hclear⟩ := List.mem_filterMap.1 hmem
  exact hafter (Call.eq_clearLanguages hclear ▸ hcall)

/-- A configuration as calls should leave it: it is well formed, and it allows every tag of a
language that was allowed since the languages were last cleared. -/
structure IsBuiltBy (calls : List Call) (c : Config) : Prop where
  wellFormed : c.WellFormed
  allows : ∀ before tag after, calls = before ++ Call.allowLanguage tag :: after →
    Call.clearLanguages ∉ after →
      ∀ tag', Language.canonicalTag tag' = Language.canonicalTag tag → c.allows tag' = true

/-- Calls leave the configuration that nothing was said about as they should. -/
theorem isBuiltBy_runCalls (userDirectory : Text) (calls : List Call) :
    IsBuiltBy calls (runCalls calls (Config.standard userDirectory)) where
  wellFormed := by
    rw [runCalls_eq]
    exact (Config.wellFormed_standard userDirectory).applyAll _
  allows := by
    rintro before tag after rfl hafter tag' htag
    exact allows_runCalls hafter htag before _

end Script

/-! ## Scripts -/

namespace ScriptLanguage

open Script

variable (l : ScriptLanguage)

/-- The calls that a script makes when it is evaluated; one that cannot be compiled makes
none. -/
def calls (script : Text) (c : Config) : List Call :=
  match l.compile script with
  | .error _ => []
  | .ok program => (l.run program c).calls

/-- The calls that each of some scripts makes when they are evaluated one after another. -/
def callsOfAll : List Text → Config → List (List Call)
  | [], _ => []
  | script :: scripts, c => l.calls script c :: callsOfAll scripts (l.eval script c).2

theorem length_callsOfAll (scripts : List Text) (c : Config) :
    (l.callsOfAll scripts c).length = scripts.length := by
  induction scripts generalizing c with
  | nil => rfl
  | cons script scripts ih => exact congrArg (· + 1) (ih _)

variable {l}

theorem calls_of_compile_eq_error {script why : Text} (h : l.compile script = .error why)
    (c : Config) : l.calls script c = [] := by
  rw [calls, h]

theorem eval_of_compile_eq_error {script why : Text} (h : l.compile script = .error why)
    (c : Config) : l.eval script c = (.error (parseError why), c) := by
  rw [eval, h]

/-- However a script ends, what becomes of the configuration is what its calls make of it. -/
theorem eval_snd (script : Text) (c : Config) :
    (l.eval script c).2 = runCalls (l.calls script c) c := by
  unfold eval calls
  cases l.compile script <;> rfl

/-- The calls of a script do not depend on the scripts behind it. -/
theorem take_callsOfAll (scripts : List Text) (n : Nat) (c : Config) :
    (l.callsOfAll scripts c).take n = l.callsOfAll (scripts.take n) c := by
  induction scripts generalizing n c with
  | nil => rw [List.take_nil, callsOfAll, List.take_nil]
  | cons script scripts ih =>
    cases n with
    | zero => rfl
    | succ n => exact congrArg (_ :: ·) (ih n _)

/-- Scripts make the calls of each of them, one after another. -/
theorem evalAll_eq (scripts : List Text) (c : Config) :
    l.evalAll scripts c = runCalls (l.callsOfAll scripts c).flatten c := by
  induction scripts generalizing c with
  | nil => rfl
  | cons script scripts ih =>
    calc l.evalAll (script :: scripts) c
        = l.evalAll scripts (l.eval script c).2 := rfl
      _ = runCalls (l.callsOfAll scripts (l.eval script c).2).flatten
            (runCalls (l.calls script c) c) := by rw [ih, ← eval_snd]
      _ = runCalls (l.callsOfAll (script :: scripts) c).flatten c := (runCalls_append ..).symm

theorem evalAll_append (scripts more : List Text) (c : Config) :
    l.evalAll (scripts ++ more) c = l.evalAll more (l.evalAll scripts c) := List.foldl_append

/-- A script that cannot be compiled may as well be left out. -/
theorem evalAll_of_compile_eq_error {script why : Text} (h : l.compile script = .error why)
    (before after : List Text) (c : Config) :
    l.evalAll (before ++ script :: after) c = l.evalAll (before ++ after) c := by
  have hkept : l.evalAll (script :: after) (l.evalAll before c) =
      l.evalAll after (l.evalAll before c) := by
    change l.evalAll after (l.eval script _).2 = _
    rw [eval_of_compile_eq_error h]
  rw [evalAll_append, evalAll_append, hkept]

end ScriptLanguage

/-- Scripts are evaluated one after another, from the configuration that nothing was said
about.  Taken as the calls that they make, whatever their arguments and whether they fail, they
leave a well-formed configuration, which allows every tag of a language that was allowed since
the languages were last cleared.  In every language of scripts, texts are such a sequence:
after each of them the configuration is what the calls up to there make of it.  A text that
cannot be compiled makes no call and changes nothing, and it may as well be left out. -/
theorem Script.wellFormed_runCalls (userDirectory : Text) :
    let start := Config.standard userDirectory
    (∀ scripts : List (List Call),
      IsBuiltBy scripts.flatten (runCalls scripts.flatten start)) ∧
    ∀ l : ScriptLanguage,
      (∀ ts : List Text,
        (l.callsOfAll ts start).length = ts.length ∧
        (∀ n, l.evalAll (ts.take n) start =
          runCalls ((l.callsOfAll ts start).take n).flatten start) ∧
        IsBuiltBy (l.callsOfAll ts start).flatten (l.evalAll ts start)) ∧
      ∀ t why, l.compile t = .error why →
        (∀ c, l.calls t c = [] ∧
          l.eval t c = (.error (.config ("parse error: ".toList ++ why)), c)) ∧
        ∀ before after,
          l.evalAll (before ++ t :: after) start = l.evalAll (before ++ after) start := by
  intro start
  refine ⟨fun scripts => isBuiltBy_runCalls userDirectory _, fun l => ⟨fun ts => ?_, ?_⟩⟩
  · refine ⟨l.length_callsOfAll ts start, fun n => ?_, ?_⟩
    · rw [ScriptLanguage.take_callsOfAll, ScriptLanguage.evalAll_eq]
    · rw [ScriptLanguage.evalAll_eq]
      exact isBuiltBy_runCalls userDirectory _
  · intro t why ht
    exact ⟨fun c => ⟨ScriptLanguage.calls_of_compile_eq_error ht c,
        ScriptLanguage.eval_of_compile_eq_error ht c⟩,
      fun before after => ScriptLanguage.evalAll_of_compile_eq_error ht before after start⟩

/-! ## A language of few scripts -/

/-- The language whose scripts are listed with their runs; no other text can be compiled. -/
def ScriptLanguage.listed (scripts : List (Text × Script.Run)) (why : Text) : ScriptLanguage where
  Program := Script.Run
  compile t :=
    match scripts.find? (·.1 = t) with
    | some (_, run) => .ok run
    | none => .error why
  run r _ := r

/-- Two scripts; the second one fails at its last call, which has a text where a number is
expected. -/
def ScriptLanguage.twoScripts : ScriptLanguage :=
  .listed
    [("clear_languages(); allow_language(\x22 MJS\x22);",
        ⟨[.clearLanguages, .allowLanguage " MJS"], none⟩),
      ("set_batch_size(0); set_batch_size(\x229\x22);",
        ⟨[⟨"set_batch_size", [.int 0]⟩, ⟨"set_batch_size", [.text "9"]⟩],
          some "Function not found: set_batch_size"⟩)]
    "Script is incomplete"

/-- Between the two there is a script that is cut off. -/
theorem Script.wellFormed_runCalls_threeScripts :
    let l := ScriptLanguage.twoScripts
    let start := Config.standard "/home/reader"
    let first : Text := "clear_languages(); allow_language(\x22 MJS\x22);"
    let last : Text := "set_batch_size(0); set_batch_size(\x229\x22);"
    let ts : List Text := [first, "clear_languages(", last]
    (l.evalAll ts start).WellFormed ∧ (l.evalAll ts start).allows "jsx" = true ∧
      l.evalAll ts start = l.evalAll [first, last] start := by
  intro l start first last ts
  obtain ⟨-, hlanguage⟩ := wellFormed_runCalls "/home/reader"
  obtain ⟨hevaluated, hmalformed⟩ := hlanguage l
  obtain ⟨-, -, hbuilt⟩ := hevaluated ts
  refine ⟨hbuilt.wellFormed, ?_,
    (hmalformed "clear_languages(" "Script is incomplete" rfl).2 [first] [last]⟩
  exact hbuilt.allows [.clearLanguages] " MJS"
    [⟨"set_batch_size", [.int 0]⟩, ⟨"set_batch_size", [.text "9"]⟩] rfl (by decide) "jsx"
    (by decide +kernel)

end PageHighlight
