/-
  Proofs/Page/Root.lean --- what is read from a root element after it was set.

  WHAT THIS FILE IS FOR.  A start tag may give one attribute several times, and the root
  element keeps all of them, in order.  Reading finds the first of a name; setting puts a
  value in its place, and clearing takes the first away.  So everything that is read is a
  matter of the values of each name (`RootElement.values`): setting one name leaves the
  values of the others alone, and an attribute is gone when it was cleared if and only if
  there was no second one of its name (`RootElement.reads_as_set`).

  ONCE IS ENOUGH.  No change gives an attribute a second time
  (`RootElement.length_values_after`), so it is only markup that can.
-/
import PageHighlight.Page.Html
import PageHighlight.Session.Render

set_option autoImplicit false

namespace PageHighlight

namespace RootElement

variable {r : RootElement} {name other : Text}

/-! ## The values of a name -/

/-- The values of the attributes of a name, in order. -/
def valuesIn (name : Text) (as : List Attribute) : List Text :=
  (as.filter (·.1 = name)).map (·.2)

/-- The values that an element gives to an attribute, in order. -/
def values (name : Text) (r : RootElement) : List Text := valuesIn name r.attrs

theorem valuesIn_cons (name : Text) (a : Attribute) (as : List Attribute) :
    valuesIn name (a :: as) =
      if a.1 = name then a.2 :: valuesIn name as else valuesIn name as := by
  unfold valuesIn
  rw [List.filter_cons]
  by_cases h : a.1 = name <;> simp [h]

/-- Reading an attribute finds its first value. -/
theorem attr?_eq_head? (name : Text) (r : RootElement) : r.attr? name = (r.values name).head? := by
  rw [attr?, values, valuesIn, List.head?_map, List.head?_filter]

theorem valuesIn_replaceAttr (name value : Text) (as : List Attribute)
    (h : valuesIn name as ≠ []) :
    valuesIn name (replaceAttr name value as) = value :: (valuesIn name as).tail := by
  induction as with
  | nil => exact absurd rfl h
  | cons a as ih =>
    rw [valuesIn_cons] at h ⊢
    by_cases ha : a.1 = name
    · rw [replaceAttr, if_pos ha, valuesIn_cons, if_pos ha, if_pos ha, List.tail_cons]
    · rw [if_neg ha] at h
      rw [replaceAttr, if_neg ha, valuesIn_cons, if_neg ha, if_neg ha, ih h]

theorem valuesIn_removeAttr (name : Text) (as : List Attribute) :
    valuesIn name (removeAttr name as) = (valuesIn name as).tail := by
  induction as with
  | nil => rfl
  | cons a as ih =>
    rw [valuesIn_cons]
    by_cases ha : a.1 = name
    · rw [removeAttr, if_pos ha, if_pos ha, List.tail_cons]
    · rw [removeAttr, if_neg ha, valuesIn_cons, if_neg ha, if_neg ha, ih]

theorem valuesIn_replaceAttr_of_ne (h : other ≠ name) (value : Text) (as : List Attribute) :
    valuesIn other (replaceAttr name value as) = valuesIn other as := by
  induction as with
  | nil => rfl
  | cons a as ih =>
    rw [replaceAttr]
    by_cases ha : a.1 = name
    · have hother : a.1 ≠ other := fun hsame => h (hsame.symm.trans ha)
      rw [if_pos ha, valuesIn_cons, valuesIn_cons, if_neg hother, if_neg hother]
    · rw [if_neg ha, valuesIn_cons, valuesIn_cons, ih]

theorem valuesIn_removeAttr_of_ne (h : other ≠ name) (as : List Attribute) :
    valuesIn other (removeAttr name as) = valuesIn other as := by
  induction as with
  | nil => rfl
  | cons a as ih =>
    rw [removeAttr]
    by_cases ha : a.1 = name
    · have hother : a.1 ≠ other := fun hsame => h (hsame.symm.trans ha)
      rw [if_pos ha, valuesIn_cons, if_neg hother]
    · rw [if_neg ha, valuesIn_cons, valuesIn_cons, ih]

/-! ## Setting an attribute -/

/-- Setting an attribute puts its value in the place of the first one, and clearing it
takes the first one away. -/
theorem values_setAttr (name : Text) (value : Option Text) (r : RootElement) :
    (r.setAttr name value).1.values name = value.toList ++ (r.values name).tail := by
  have hhead := attr?_eq_head? name r
  cases hattr : r.attr? name with
  | none =>
    have hvalues : r.values name = [] := List.head?_eq_none_iff.1 (hhead.symm.trans hattr)
    cases value with
    | none => simp only [setAttr, hattr, hvalues]; rfl
    | some new =>
      have happend : valuesIn name (r.attrs ++ [(name, new)]) = r.values name ++ [new] := by
        simp [valuesIn, values]
      simp only [setAttr, hattr]
      rw [values, happend, hvalues]
      rfl
  | some old =>
    obtain ⟨rest, hvalues⟩ := List.head?_eq_some_iff.1 (hhead.symm.trans hattr)
    cases value with
    | none =>
      simp only [setAttr, hattr]
      exact valuesIn_removeAttr name r.attrs
    | some new =>
      simp only [setAttr, hattr]
      split
      · next hsame => rw [hvalues, hsame]; rfl
      · refine valuesIn_replaceAttr name new r.attrs ?_
        rw [← values, hvalues]
        exact List.cons_ne_nil old rest

/-- Setting one attribute leaves the values of the others alone. -/
theorem values_setAttr_of_ne (h : other ≠ name) (value : Option Text) (r : RootElement) :
    (r.setAttr name value).1.values other = r.values other := by
  unfold setAttr
  split
  · split
    · rfl
    · exact valuesIn_replaceAttr_of_ne h _ r.attrs
  · exact valuesIn_removeAttr_of_ne h r.attrs
  · simp [values, valuesIn, h.symm]
  · rfl

theorem classes_setAttr (name : Text) (value : Option Text) (r : RootElement) :
    (r.setAttr name value).1.classes = r.classes := by
  unfold setAttr
  split
  · split <;> rfl
  · rfl
  · rfl
  · rfl

/-! ## Setting a class -/

theorem attrs_setClass (c : Text) (on : Bool) (r : RootElement) :
    (r.setClass c on).1.attrs = r.attrs := by
  unfold setClass
  split <;> rfl

theorem hasClass_setClass (c : Text) (on : Bool) (r : RootElement) :
    (r.setClass c on).1.hasClass c = on := by
  unfold setClass
  cases hc : r.hasClass c <;> cases on
  · exact hc
  · simp [hasClass]
  · simp [hasClass]
  · exact hc

/-- Setting one class leaves the others as they are, and in their order. -/
theorem filter_classes_setClass (c : Text) (on : Bool) (r : RootElement) :
    (r.setClass c on).1.classes.filter (· ≠ c) = r.classes.filter (· ≠ c) := by
  unfold setClass
  split
  · simp
  · simp [List.filter_filter]
  · rfl

/-! ## Histories -/

/-- A change of a root element. -/
inductive Change where
  | setClass (c : Text) (on : Bool)
  | setAttr (name : Text) (value : Option Text)

/-- A root element after a change. -/
def Change.apply (r : RootElement) : Change → RootElement
  | setClass c on => (r.setClass c on).1
  | setAttr name value => (r.setAttr name value).1

/-- A root element after a history of changes. -/
def after (r : RootElement) (changes : List Change) : RootElement := changes.foldl Change.apply r

/-- No change gives an attribute a second time. -/
theorem Change.length_values_apply (change : Change) (name : Text) (r : RootElement) :
    ((change.apply r).values name).length ≤ max 1 (r.values name).length := by
  cases change with
  | setClass c on =>
    have hvalues : ((setClass c on).apply r).values name = r.values name :=
      congrArg (valuesIn name) (attrs_setClass c on r)
    rw [hvalues]
    exact Nat.le_max_right _ _
  | setAttr changed value =>
    by_cases hname : name = changed
    · subst hname
      have hvalue : value.toList.length ≤ 1 := by cases value <;> simp
      rw [apply, values_setAttr, List.length_append, List.length_tail]
      omega
    · rw [apply, values_setAttr_of_ne hname]
      exact Nat.le_max_right _ _

theorem length_values_after (r : RootElement) (changes : List Change) (name : Text) :
    ((r.after changes).values name).length ≤ max 1 (r.values name).length := by
  induction changes generalizing r with
  | nil => exact Nat.le_max_right _ _
  | cons change changes ih =>
    have hrest := ih (change.apply r)
    have hfirst := change.length_values_apply name r
    calc ((r.after (change :: changes)).values name).length
        ≤ max 1 ((change.apply r).values name).length := hrest
      _ ≤ max 1 (r.values name).length := by omega

/-! ## Reading what was set -/

/-- Clearing an attribute brings out its second value, if there is one. -/
theorem attr?_setAttr_none (name : Text) (r : RootElement) :
    (r.setAttr name none).1.attr? name = (r.values name)[1]? := by
  rw [attr?_eq_head?, values_setAttr, Option.toList_none, List.nil_append, List.head?_tail]

theorem attr?_setAttr_some (name value : Text) (r : RootElement) :
    (r.setAttr name (some value)).1.attr? name = some value := by
  rw [attr?_eq_head?, values_setAttr]
  rfl

theorem attr?_setAttr_of_ne (h : other ≠ name) (value : Option Text) (r : RootElement) :
    (r.setAttr name value).1.attr? other = r.attr? other := by
  rw [attr?_eq_head?, attr?_eq_head?, values_setAttr_of_ne h]

theorem hasClass_setClass_of_ne {c d : Text} (h : d ≠ c) (on : Bool) (r : RootElement) :
    (r.setClass c on).1.hasClass d = r.hasClass d := by
  have hmem : ∀ r : RootElement, r.hasClass d = true ↔ d ∈ r.classes.filter (· ≠ c) := by
    intro r
    rw [hasClass, List.contains_iff_mem, List.mem_filter, and_iff_left (decide_eq_true h)]
  rw [Bool.eq_iff_iff, hmem, hmem, filter_classes_setClass]

/-- The theme of a page on which `data-theme` is cleared is decided by the reader's
preference, the classes of the root element, and the second `data-theme` of its start
tag. -/
theorem resolveTheme_cleared (c : Config) (p : Page) (r : RootElement) :
    c.resolveTheme { p with root := (r.setAttr "data-theme" none).1 } =
      if p.prefersDark || r.classes.any c.darkIndicators.contains
          || ((r.values "data-theme")[1]?).any c.darkIndicators.contains
        then c.darkTheme else c.defaultTheme := by
  rw [Config.resolveTheme, Config.isDark]
  dsimp only
  rw [classes_setAttr, attr?_setAttr_none]

/-- What was set is read, whatever page a root element comes from and however it was changed
before.  An attribute has the value that it was given, and none if it was cleared and its
name was not there twice; the attributes of other names and the classes are as they were.
A class is there if it was given and not if it was taken away; the other classes are as they
were and in their order, and so are the attributes.  No change gives an attribute a second
time, so a name is there twice only if the page says so; and clearing `data-theme` leaves
the dark theme to the reader's preference, to the classes, and to a second `data-theme`. -/
theorem reads_as_set (t : Text) (changes : List Change) :
    let r := (Page.ofHtml t).root.after changes
    (∀ name value, (r.setAttr name (some value)).1.attr? name = some value) ∧
    (∀ name, (r.setAttr name none).1.attr? name = none ↔ (r.values name).length ≤ 1) ∧
    (∀ name value other, other ≠ name → (r.setAttr name value).1.attr? other = r.attr? other) ∧
    (∀ name value, (r.setAttr name value).1.classes = r.classes) ∧
    (∀ c on, (r.setClass c on).1.hasClass c = on ∧
      (∀ d, d ≠ c → (r.setClass c on).1.hasClass d = r.hasClass d) ∧
      (r.setClass c on).1.classes.filter (· ≠ c) = r.classes.filter (· ≠ c) ∧
      (r.setClass c on).1.attrs = r.attrs) ∧
    (∀ name, (r.values name).length ≤ max 1 ((Page.ofHtml t).root.values name).length) ∧
    ∀ (c : Config) (p : Page),
      c.resolveTheme { p with root := (r.setAttr "data-theme" none).1 } =
        if p.prefersDark || r.classes.any c.darkIndicators.contains
            || ((r.values "data-theme")[1]?).any c.darkIndicators.contains
          then c.darkTheme else c.defaultTheme := by
  intro r
  refine ⟨fun name value => attr?_setAttr_some name value r, fun name => ?_,
    fun name value other h => attr?_setAttr_of_ne h value r,
    fun name value => classes_setAttr name value r,
    fun c on => ⟨hasClass_setClass c on r, fun d h => hasClass_setClass_of_ne h on r,
      filter_classes_setClass c on r, attrs_setClass c on r⟩,
    (Page.ofHtml t).root.length_values_after changes, fun c p => resolveTheme_cleared c p r⟩
  rw [attr?_setAttr_none, List.getElem?_eq_none_iff]

/-- A page in English that is dark by its `data-theme`. -/
def themedOnce : Text := "<html lang=\"en\" data-theme=\"navy\"></html>"

/-- Where the name stands once, the attribute is gone and the other one is still there. -/
theorem reads_as_set_themedOnce :
    let r := (Page.ofHtml themedOnce).root.after [.setClass "wide" true]
    (r.values "data-theme").length ≤ 1 ∧ (r.setAttr "data-theme" none).1.attr? "data-theme" = none ∧
      "lang".toList ≠ "data-theme".toList ∧
      (r.setAttr "data-theme" none).1.attr? "lang" = some "en".toList := by
  intro r
  have hread := reads_as_set themedOnce [.setClass "wide" true]
  have honce : (r.values "data-theme").length ≤ 1 := by decide +kernel
  have hother : "lang".toList ≠ "data-theme".toList := by decide
  have hlang : r.attr? "lang" = some "en".toList := by decide +kernel
  exact ⟨honce, (hread.2.1 "data-theme").2 honce, hother,
    (hread.2.2.1 "data-theme" none "lang" hother).trans hlang⟩

/-- A page whose start tag gives `data-theme` twice. -/
def themedTwice : Text := "<html data-theme=\"navy\" data-theme=\"dark\"></html>"

/-- The attribute is still there when it was cleared, and the page is still dark. -/
theorem not_cleared_themedTwice :
    let r := (Page.ofHtml themedTwice).root
    (r.setAttr "data-theme" none).1.attr? "data-theme" = some "dark".toList ∧
      (Config.standard []).resolveTheme
          { Page.ofHtml themedTwice with root := (r.setAttr "data-theme" none).1 } =
        "gruvbox-dark".toList ∧
      (Page.ofHtml themedTwice).prefersDark = false ∧ r.classes = [] := by
  decide +kernel

end RootElement

end PageHighlight
