/-
  Page/Tag.lean --- reading start tags and their attributes.

  WHAT THIS FILE IS FOR.  A page is searched for a few start tags.  `Tag.find?`
  finds the next one of a name, and where it ends: at the first `>` that is not
  inside a quoted attribute value.  `Tag.attributes` reads the text between the
  name and that `>`.

  NOTHING IS LOST.  What `find?` returns, put together again, is the text it was
  given (`eq_of_find?`).
-/
import PageHighlight.Markup
import PageHighlight.Text.Blank

set_option autoImplicit false

namespace PageHighlight

namespace Tag

/-! ## Finding a tag -/

/-- Whether a tag's name may end before this text. -/
def endsName : Text → Bool
  | [] => false
  | c :: _ => c = '>' || Text.isAsciiBlank c

/-- What follows the name in a start tag of this name at the beginning of a
text. -/
def afterName? (name t : Text) : Option Text :=
  (Text.dropPrefix? ('<' :: name) t).filter endsName

/-- Whether a character opens or closes a quoted value. -/
def isQuote (c : Char) : Bool := c = '\x22' || c = '\x27'

/-- The text up to the `>` that ends a tag, and the text after it.  `quote` is the
quote that is open; `afterEquals` tells whether only blanks or a quoted value
stand between here and the last `=`. -/
def close? (quote : Option Char) (afterEquals : Bool) : Text → Option (Text × Text)
  | [] => none
  | c :: r =>
    match quote with
    | some q =>
      (close? (if c = q then none else some q) afterEquals r).map fun (a, b) => (c :: a, b)
    | none =>
      if c = '>' then some ([], r)
      else
        let opened := if isQuote c && afterEquals then some c else none
        let after :=
          if opened.isSome || Text.isAsciiBlank c then afterEquals else c = '='
        (close? opened after r).map fun (a, b) => (c :: a, b)

/-- The start tag of this name at the beginning of a text: its attributes as they
stand there, and what follows the tag. -/
def here? (name t : Text) : Option (Text × Text) :=
  (afterName? name t).bind (close? none false)

/-- The next start tag of this name: what stands before it, its attributes as they
stand there, and what follows it.  A tag that never ends ends the search. -/
def find? (name : Text) : Text → Option (Text × Text × Text)
  | [] => none
  | c :: r =>
    match afterName? name (c :: r) with
    | some rest => (close? none false rest).map fun (attrs, after) => ([], attrs, after)
    | none => (find? name r).map fun (before, rest) => (c :: before, rest)

theorem eq_of_close? {quote : Option Char} {afterEquals : Bool} {t attrs after : Text}
    (h : close? quote afterEquals t = some (attrs, after)) : t = attrs ++ '>' :: after := by
  induction t generalizing quote afterEquals attrs with
  | nil => simp [close?] at h
  | cons c r ih =>
    simp only [close?] at h
    split at h
    · obtain ⟨⟨a, b⟩, hp, he⟩ := Option.map_eq_some_iff.1 h
      cases he
      simp [ih hp]
    · split at h
      · next hc => cases h; simp [hc]
      · obtain ⟨⟨a, b⟩, hp, he⟩ := Option.map_eq_some_iff.1 h
        cases he
        simp [ih hp]

theorem eq_of_afterName? {name t rest : Text} (h : afterName? name t = some rest) :
    t = '<' :: name ++ rest := by
  unfold afterName? at h
  rw [Option.filter_eq_some_iff] at h
  simpa using Text.dropPrefix?_eq_some.1 h.1

theorem eq_of_here? {name t attrs after : Text} (h : here? name t = some (attrs, after)) :
    t = '<' :: name ++ attrs ++ '>' :: after := by
  unfold here? at h
  obtain ⟨rest, h1, h2⟩ := Option.bind_eq_some_iff.1 h
  rw [eq_of_afterName? h1, eq_of_close? h2]
  simp

/-- The pieces that a search returns are the text. -/
theorem eq_of_find? {name t before attrs after : Text}
    (h : find? name t = some (before, attrs, after)) :
    t = before ++ '<' :: name ++ attrs ++ '>' :: after := by
  induction t generalizing before with
  | nil => simp [find?] at h
  | cons c r ih =>
    simp only [find?] at h
    split at h
    · next rest hr =>
      obtain ⟨⟨a, b⟩, hp, he⟩ := Option.map_eq_some_iff.1 h
      cases he
      rw [eq_of_afterName? hr, eq_of_close? hp]
      simp
    · obtain ⟨⟨a, b⟩, hp, he⟩ := Option.map_eq_some_iff.1 h
      cases he
      have := ih hp
      rw [this]
      simp

/-! ## Attributes -/

/-- A character that may stand in an attribute's name. -/
def inName (c : Char) : Bool := !(Text.isAsciiBlank c || c = '=' || c = '/')

/-- The value after an `=`, as it stands there, and what follows it: a quoted
value ends at its quote, any other at an ASCII blank. -/
def takeValue (t : Text) : Text × Text :=
  match t with
  | [] => ([], [])
  | c :: r =>
    if isQuote c then (r.takeWhile (· ≠ c), (r.dropWhile (· ≠ c)).drop 1)
    else
      ((c :: r).takeWhile fun d => !Text.isAsciiBlank d,
       (c :: r).dropWhile fun d => !Text.isAsciiBlank d)

/-- The attribute at the beginning of a text, and the text after it; a stray `/`
or `=` is passed over. -/
def takeAttribute (t : Text) : Option Attribute × Text :=
  let name := t.takeWhile inName
  if name.isEmpty then (none, Text.trimStart (t.drop 1))
  else
    let rest := Text.trimStart (t.dropWhile inName)
    match rest with
    | '=' :: v =>
      let (value, rest) := takeValue (Text.trimStart v)
      (some (Text.asciiLower name, Entity.decode value), Text.trimStart rest)
    | _ => (some (Text.asciiLower name, []), rest)

theorem length_trimStart_le (t : Text) : (Text.trimStart t).length ≤ t.length :=
  (List.dropWhile_sublist _).length_le

theorem length_takeValue_le (t : Text) : (takeValue t).2.length ≤ t.length := by
  unfold takeValue
  split
  · simp
  · next c r =>
    split
    · have := (List.dropWhile_sublist (l := r) (fun d => decide (d ≠ c))).length_le
      simp only [List.length_drop, List.length_cons]
      omega
    · exact (List.dropWhile_sublist _).length_le

/-- Taking an attribute off a text leaves less of it. -/
theorem length_takeAttribute_lt {c : Char} {r : Text} :
    (takeAttribute (c :: r)).2.length < (c :: r).length := by
  unfold takeAttribute
  by_cases hn : inName c = true
  · have hd : ((c :: r).dropWhile inName).length ≤ r.length := by
      simp only [List.dropWhile_cons, hn, if_true]
      exact (List.dropWhile_sublist _).length_le
    have ht : ((c :: r).takeWhile inName).isEmpty = false := by simp [hn]
    simp only [ht, Bool.false_eq_true, if_false]
    split
    · next v hv =>
      have h1 := length_trimStart_le ((c :: r).dropWhile inName)
      rw [hv] at h1
      have h2 := length_trimStart_le v
      have h3 := length_takeValue_le (Text.trimStart v)
      have h4 := length_trimStart_le (takeValue (Text.trimStart v)).2
      simp only [List.length_cons] at h1 ⊢
      omega
    · have h1 := length_trimStart_le ((c :: r).dropWhile inName)
      simp only [List.length_cons]
      omega
  · have ht : ((c :: r).takeWhile inName).isEmpty = true := by simp [hn]
    simp only [ht, if_true]
    have := length_trimStart_le ((c :: r).drop 1)
    simp only [List.drop_succ_cons, List.drop_zero, List.length_cons] at this ⊢
    omega

/-- The attributes of a text that begins with one, in order. -/
def attributesFrom : Text → List Attribute
  | [] => []
  | c :: r =>
    let taken := takeAttribute (c :: r)
    match taken.1 with
    | some a => a :: attributesFrom taken.2
    | none => attributesFrom taken.2
termination_by t => t.length
decreasing_by all_goals exact length_takeAttribute_lt

/-- The attributes of a tag: names in lower case, values with their references
decoded. -/
def attributes (t : Text) : List Attribute := attributesFrom (Text.trimStart t)

/-! ## Classes -/

/-- The name of the attribute that holds the classes. -/
def classAttribute : Text := "class"

/-- The classes that attributes give; of several class attributes the last one
counts. -/
def classesOf (attrs : List Attribute) : List Text :=
  match (attrs.filter (·.1 = classAttribute)).getLast? with
  | some a => Text.words a.2
  | none => []

/-- The attributes that are not about classes. -/
def othersOf (attrs : List Attribute) : List Attribute :=
  attrs.filter (·.1 ≠ classAttribute)

/-- Classes and other attributes as they are written in a tag; no classes, no
class attribute. -/
def withClasses (classes : List Text) (others : List Attribute) : List Attribute :=
  if classes.isEmpty then others else (classAttribute, Text.join [' '] classes) :: others

end Tag

end PageHighlight
