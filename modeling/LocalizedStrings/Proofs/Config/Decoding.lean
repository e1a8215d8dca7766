import LocalizedStrings.Config.Load
import LocalizedStrings.Proofs.Json.Shapes

/-!
# Reading a configuration

The members of the object that gives a configuration may come in any order, with other members
between them, and so may those of each locale. What each member gives does not depend on the others.
The key of a member is a text, and so it has no surrogate without its partner; the texts in a value
that nobody asked for may have some.

* `Config.Gives`: the members of an object give a value for a key, or leave it out.
* `Config.IsLocale`, `Config.IsGivenBy`: the members that give a locale or a configuration.
* `Config.exists_isLocale`, `Config.exists_isGivenBy`: each of them has such members.
* `Config.reads_locale`: each locale is read.
* **`Config.ofText_members`**: the configuration is read.
-/

namespace LocalizedStrings.Config

open Json Reader

/-! ## Members -/

section

variable {α : Type}

/-- The members of an object, as their keys and the texts of their values. -/
abbrev Members : Type := List (String × List Char)

/-- The members give the value `a` for the key, if they have the key at all. -/
structure Gives (R : α → List Char → Prop) (ms : Members) (key : String) (a : α) : Prop where
  /-- The key is there at most once. -/
  once : (ms.map Prod.fst).count key ≤ 1
  text : ∀ u, (key, u) ∈ ms → R a u

/-- The same, but they have the key unless the value is the default `d`. -/
structure GivesOr (R : α → List Char → Prop) (ms : Members) (key : String) (a d : α) : Prop
    extends Gives R ms key a where
  eq_default : key ∉ ms.map Prod.fst → a = d

/-- The value for the key, as far as these members give it. -/
def given (ms : Members) (key : String) (a : α) : Option α :=
  if key ∈ ms.map Prod.fst then some a else none

variable {R : α → List Char → Prop} {ms before : Members} {key : String} {a : α} {u : List Char}

theorem given_append_self : given (before ++ [(key, u)]) key a = some a := by
  simp [given]

theorem given_append_of_ne {k : String} (h : k ≠ key) :
    given (before ++ [(k, u)]) key a = given before key a := by
  have hmem : key ∈ (before ++ [(k, u)]).map Prod.fst ↔ key ∈ before.map Prod.fst := by
    simp only [List.map_append, List.mem_append, List.map_cons, List.map_nil, List.mem_singleton,
      h.symm, or_false]
  simp only [given, hmem]

/-- No member before the one with the key has it. -/
theorem Gives.given_before (h : Gives R ms key a) (hms : before ++ [(key, u)] <+: ms) :
    given before key a = none := by
  obtain ⟨after, rfl⟩ := hms
  have hcount := h.once
  rw [given, if_neg]
  intro hmem
  have hpos : 0 < (before.map Prod.fst).count key := List.count_pos_iff.2 hmem
  simp at hcount
  omega

/-- The value is read from the member with the key. -/
theorem Gives.readsMember {value : Reader α} (h : Gives R ms key a)
    (hms : before ++ [(key, u)] <+: ms) (hvalue : ∀ u, R a u → Reads value a u) :
    ReadsMember (field key (given before key a) value) a u := by
  rw [h.given_before hms]
  exact readsMember_field (hvalue u (h.text u (hms.subset (by simp)))) key

theorem GivesOr.getD_given {d : α} (h : GivesOr R ms key a d) : (given ms key a).getD d = a := by
  unfold given
  split_ifs with hkey
  · rfl
  · exact (h.eq_default hkey).symm

end

/-! ## Locales -/

/-- The name of a field. -/
def fieldText : Field → String
  | .base => "base"
  | .comment => "translation"

/-- The object `u` gives the locale `l`: its name and its field, and other members. -/
def IsLocale (l : Locale) (u : List Char) : Prop :=
  ∃ ms : Members, IsObject IsText ms u ∧
    Gives IsText ms "name" l.name ∧ Gives (fun f => IsText (fieldText f)) ms "field" l.field ∧
    "name" ∈ ms.map Prod.fst ∧ "field" ∈ ms.map Prod.fst ∧
    ∀ m ∈ ms, m.1 ≠ "name" → m.1 ≠ "field" → IsValue m.2

theorem exists_isLocale (l : Locale) : ∃ u, IsLocale l u := by
  obtain ⟨name, hname⟩ := exists_isText l.name
  obtain ⟨field, hfield⟩ := exists_isText (fieldText l.field)
  obtain ⟨u, hu⟩ : ∃ u, IsObject IsText [("name", name), ("field", field)] u :=
    exists_isObject fun m _ => exists_isText m.1
  exact ⟨u, _, hu, ⟨by simp, by simpa using hname⟩, ⟨by simp, by simpa using hfield⟩, by simp,
    by simp, by simp⟩

theorem reads_text {s : String} {u : List Char} (h : IsText s u) : Reads text s u :=
  reads_textValue h _

theorem reads_fieldName {f : Field} {u : List Char} (h : IsText (fieldText f) u) :
    Reads fieldName f u := by
  refine reads_variantOf h ?_
  cases f <;> rfl

theorem begins_of_isText {s : String} {u : List Char} (h : IsText s u) : Begins u := by
  obtain ⟨us, -, rfl⟩ := h
  exact ⟨_, _, rfl, rfl, by decide⟩

theorem begins_of_isLocale {l : Locale} {u : List Char} (h : IsLocale l u) : Begins u := by
  obtain ⟨ms, ⟨v, -, rfl⟩, -⟩ := h
  exact ⟨_, _, rfl, rfl, by decide⟩

/-- What is known of a locale after some of its members. -/
def localeAfter (l : Locale) (before : Members) : Option String × Option Field :=
  (given before "name" l.name, given before "field" l.field)

theorem isStateAfter_localeMember {l : Locale} {ms : Members}
    (hname : Gives IsText ms "name" l.name)
    (hfield : Gives (fun f => IsText (fieldText f)) ms "field" l.field)
    (hother : ∀ m ∈ ms, m.1 ≠ "name" → m.1 ≠ "field" → IsValue m.2) :
    IsStateAfter localeMember (localeAfter l) ms := by
  rintro before ⟨key, u⟩ hms
  unfold localeMember localeAfter
  dsimp only
  split_ifs with h₁ h₂
  · subst h₁
    rw [given_append_self, given_append_of_ne (by decide)]
    exact (hname.readsMember hms fun _ => reads_text).map _
  · subst h₂
    rw [given_append_self, given_append_of_ne (by decide)]
    exact (hfield.readsMember hms fun _ => reads_fieldName).map _
  · rw [given_append_of_ne h₁, given_append_of_ne h₂]
    exact (readsMember_skipField (hother (key, u) (hms.subset (by simp)) h₁ h₂)).map _

theorem reads_locale {l : Locale} {u : List Char} (h : IsLocale l u) : Reads locale l u := by
  obtain ⟨ms, hobject, hname, hfield, hhasName, hhasField, hother⟩ := h
  obtain ⟨v, rfl, hrun⟩ :=
    run_membersOf (isStateAfter_localeMember hname hfield hother) hobject
  have hafter : localeAfter l ms = (some l.name, some l.field) := by
    simp only [localeAfter, given, hhasName, hhasField, if_true]
  intro w r hw _
  unfold locale
  rw [List.cons_append, run_bind_of_ok (run_token? hw rfl _)]
  refine (run_bind_of_ok (hrun r)).trans ?_
  rw [hafter]
  rfl

/-! ## Configurations -/

/-- The members give the configuration `c`: its values, each of which may be left out if it is the
default, and other members. -/
structure IsGivenBy (c : Config) (ms : Members) : Prop where
  sourceExtensions : GivesOr (IsArray IsText) ms "sourceExtensions" c.sourceExtensions ["swift"]
  ignores : GivesOr (IsArray IsText) ms "ignores" c.ignores []
  resourceFileName : GivesOr IsText ms "resourceFileName" c.resourceFileName "Localizable.strings"
  locales : GivesOr (IsArray IsLocale) ms "locales" c.locales [⟨"Base", .base⟩, ⟨"ja", .comment⟩]
  other : ∀ m ∈ ms, m.1 ∉ ["sourceExtensions", "ignores", "resourceFileName", "locales"] →
    IsValue m.2

/-- Each configuration can be written. -/
theorem exists_isGivenBy (c : Config) : ∃ ms u, IsObject IsText ms u ∧ c.IsGivenBy ms := by
  obtain ⟨extensions, hextensions⟩ : ∃ u, IsArray IsText c.sourceExtensions u :=
    exists_isBracketed '[' ']' fun s _ => exists_isText s
  obtain ⟨ignores, hignores⟩ : ∃ u, IsArray IsText c.ignores u :=
    exists_isBracketed '[' ']' fun s _ => exists_isText s
  obtain ⟨fileName, hfileName⟩ := exists_isText c.resourceFileName
  obtain ⟨locales, hlocales⟩ : ∃ u, IsArray IsLocale c.locales u :=
    exists_isBracketed '[' ']' fun l _ => exists_isLocale l
  obtain ⟨u, hu⟩ : ∃ u, IsObject IsText [("sourceExtensions", extensions), ("ignores", ignores),
      ("resourceFileName", fileName), ("locales", locales)] u :=
    exists_isObject fun m _ => exists_isText m.1
  exact ⟨_, u, hu,
    { sourceExtensions := ⟨⟨by simp, by simpa using hextensions⟩, by simp⟩
      ignores := ⟨⟨by simp, by simpa using hignores⟩, by simp⟩
      resourceFileName := ⟨⟨by simp, by simpa using hfileName⟩, by simp⟩
      locales := ⟨⟨by simp, by simpa using hlocales⟩, by simp⟩
      other := by simp }⟩

theorem reads_texts {as : List String} {u : List Char} (h : IsArray IsText as u) :
    Reads texts as u :=
  reads_arrayOf h (fun _ _ => begins_of_isText) fun _ _ => reads_text

theorem reads_locales {ls : List Locale} {u : List Char} (h : IsArray IsLocale ls u) :
    Reads (arrayOf locale) ls u :=
  reads_arrayOf h (fun _ _ => begins_of_isLocale) fun _ _ => reads_locale

/-- What is known of a configuration after some of its members. -/
def draftAfter (c : Config) (before : Members) : Draft where
  sourceExtensions := given before "sourceExtensions" c.sourceExtensions
  ignores := given before "ignores" c.ignores
  resourceFileName := given before "resourceFileName" c.resourceFileName
  locales := given before "locales" c.locales

variable {c : Config} {ms : Members}

theorem IsGivenBy.isStateAfter (h : c.IsGivenBy ms) : IsStateAfter member c.draftAfter ms := by
  rintro before ⟨key, u⟩ hms
  unfold member draftAfter
  dsimp only
  split_ifs with h₁ h₂ h₃ h₄
  · subst h₁
    rw [given_append_self, given_append_of_ne (by decide), given_append_of_ne (by decide),
      given_append_of_ne (by decide)]
    exact (h.sourceExtensions.readsMember hms fun _ => reads_texts).map _
  · subst h₂
    rw [given_append_self, given_append_of_ne (by decide), given_append_of_ne (by decide),
      given_append_of_ne (by decide)]
    exact (h.ignores.readsMember hms fun _ => reads_texts).map _
  · subst h₃
    rw [given_append_self, given_append_of_ne (by decide), given_append_of_ne (by decide),
      given_append_of_ne (by decide)]
    exact (h.resourceFileName.readsMember hms fun _ => reads_text).map _
  · subst h₄
    rw [given_append_self, given_append_of_ne (by decide), given_append_of_ne (by decide),
      given_append_of_ne (by decide)]
    exact (h.locales.readsMember hms fun _ => reads_locales).map _
  · rw [given_append_of_ne h₁, given_append_of_ne h₂, given_append_of_ne h₃,
      given_append_of_ne h₄]
    have hvalue := h.other (key, u) (hms.subset (by simp)) (by simp [h₁, h₂, h₃, h₄])
    exact (readsMember_skipField hvalue).map _

/-- The defaults stand for the values that the members leave out. -/
theorem IsGivenBy.config_draftAfter (h : c.IsGivenBy ms) : (c.draftAfter ms).config = c := by
  unfold Draft.config draftAfter
  dsimp only
  rw [h.sourceExtensions.getD_given, h.ignores.getD_given, h.resourceFileName.getD_given,
    h.locales.getD_given]

/-- **The configuration that the members give is read**, whatever their order is and whatever else
stands between them. Each configuration has such members. -/
theorem ofText_members (c : Config) :
    (∃ ms u, IsObject IsText ms u ∧ c.IsGivenBy ms) ∧
    ∀ (ms : Members) (u w w' : List Char), IsBlanks w → IsBlanks w' → IsObject IsText ms u →
      c.IsGivenBy ms → ofText (w ++ (u ++ w')) = .ok c := by
  refine ⟨exists_isGivenBy c, fun ms u w w' hw hw' hu h => ?_⟩
  obtain ⟨v, rfl, hrun⟩ := run_membersOf h.isStateAfter hu
  have hreader : reader.run (w ++ ('{' :: v ++ w')) = .ok (c, w') := by
    unfold reader
    rw [List.cons_append]
    refine (run_bind_of_ok (run_token? hw rfl _)).trans ((run_bind_of_ok (hrun w')).trans ?_)
    change Except.ok ((c.draftAfter ms).config, w') = _
    rw [h.config_draftAfter]
  unfold ofText
  rw [run_bind_of_ok hreader, run_bind_of_ok (run_finish hw')]
  rfl

/-- An escaped key, a text with a pair of surrogates, a value nobody asked for with half a pair in
it, and the members of a locale the other way round with another one between them. -/
theorem ofText_members_shuffled :
    ∃ ms w u w', IsBlanks w ∧ IsBlanks w' ∧ IsObject IsText ms u ∧
      IsGivenBy { ignores := ["😀"], locales := [⟨"ja", .comment⟩] } ms ∧
      w ++ (u ++ w') = ("\n\x7b\"x\": [-0.5, \x7b\"\": \"\\uD83D\"\x7d], " ++
        "\"\\u0069gnores\": [\"\\uD83D\\uDE00\"], " ++
        "\"locales\": " ++
        "[\x7b\"field\": \"translation\", \"x\": null, \"name\": \"ja\"\x7d]\x7d ").toList ∧
      ofText (w ++ (u ++ w')) = .ok { ignores := ["😀"], locales := [⟨"ja", .comment⟩] } := by
  have hspace : IsBlanks [' '] := rfl
  have hmember : ∀ (k : String) (v : List Char), (∀ c ∈ k.toList, IsPlain c) →
      IsMember IsText (k, v) ('"' :: (k.toList ++ ['"']) ++ ([] ++ ':' :: ([' '] ++ v))) :=
    fun k v hk => ⟨_, [], [' '], .of_plain hk, .nil, hspace, rfl⟩
  have hx : IsValue "[-0.5, \x7b\"\": \"\\uD83D\"\x7d]".toList := by
    have hnumber : IsValue "-0.5".toList := by
      have hwhole : IsWhole ['0'] := by simp [IsWhole, IsDigits]
      have hfraction : IsFraction ['.', '5'] := .inr ⟨['5'], by simp [IsDigits], rfl⟩
      exact .number ⟨['-'], ['0'], _, [], .inr rfl, hwhole, hfraction, .inl rfl, rfl⟩
    have hhalf : IsValue "\"\\uD83D\"".toList :=
      .text ⟨['\\' :: 'u' :: "D83D".toList],
        List.forall_mem_singleton.2 (.hex (n := 0xD83D) (by decide)), rfl⟩
    have hmembers : IsObject Eq [("\"\"".toList, "\"\\uD83D\"".toList)]
        "\x7b\"\": \"\\uD83D\"\x7d".toList :=
      ⟨_, .inr (.one .nil ⟨_, [], [' '], rfl, .nil, hspace, rfl⟩ .nil), rfl⟩
    have hobject : IsValue "\x7b\"\": \"\\uD83D\"\x7d".toList :=
      .object (List.forall_mem_singleton.2 ⟨[], by simp, rfl⟩) (List.forall_mem_singleton.2 hhalf)
        hmembers
    have hitems : IsArray Eq ["-0.5".toList, "\x7b\"\": \"\\uD83D\"\x7d".toList]
        "[-0.5, \x7b\"\": \"\\uD83D\"\x7d]".toList :=
      ⟨_, .inr (.cons .nil rfl .nil (.one hspace rfl .nil)), rfl⟩
    exact .array (by simpa using ⟨hnumber, hobject⟩) hitems
  have hkey : IsText "ignores" "\"\\u0069gnores\"".toList := by
    have hrest : ∀ c ∈ "gnores".toList, IsPlain c := by simp [isPlain_iff]
    exact ⟨('\\' :: 'u' :: "0069".toList) :: "gnores".toList.map fun c => [c],
      .cons (.unit (by decide) (by decide)) (forall₂_isSpelling_of_plain hrest), rfl⟩
  have hface : IsText "😀" "\"\\uD83D\\uDE00\"".toList :=
    ⟨['\\' :: 'u' :: ("D83D".toList ++ '\\' :: 'u' :: "DE00".toList)],
      .cons (.pair (by decide) (by decide) (by decide)) .nil, rfl⟩
  have hignores : IsArray IsText ["😀"] "[\"\\uD83D\\uDE00\"]".toList :=
    ⟨_, .inr (.one .nil hface .nil), rfl⟩
  have hlocale : IsLocale ⟨"ja", .comment⟩
      "\x7b\"field\": \"translation\", \"x\": null, \"name\": \"ja\"\x7d".toList := by
    have hfield : IsText "translation" "\"translation\"".toList := .of_plain (by simp [isPlain_iff])
    have hname : IsText "ja" "\"ja\"".toList := .of_plain (by simp [isPlain_iff])
    have hother : IsValue "null".toList := .word (by decide)
    refine ⟨[("field", "\"translation\"".toList), ("x", "null".toList), ("name", "\"ja\"".toList)],
      ⟨_, .inr (.cons .nil (hmember _ _ (by simp [isPlain_iff])) .nil
        (.cons hspace (hmember _ _ (by simp [isPlain_iff])) .nil
        (.one hspace (hmember _ _ (by simp [isPlain_iff])) .nil))), rfl⟩,
      ⟨by decide, ?_⟩, ⟨by decide, ?_⟩, by decide, by decide, ?_⟩
    · simpa using hname
    · simpa [fieldText] using hfield
    · simpa using hother
  have hlocales : IsArray IsLocale [⟨"ja", .comment⟩]
      "[\x7b\"field\": \"translation\", \"x\": null, \"name\": \"ja\"\x7d]".toList :=
    ⟨_, .inr (.one .nil hlocale .nil), rfl⟩
  have hu : IsObject IsText
      [("x", "[-0.5, \x7b\"\": \"\\uD83D\"\x7d]".toList),
        ("ignores", "[\"\\uD83D\\uDE00\"]".toList),
        ("locales",
          "[\x7b\"field\": \"translation\", \"x\": null, \"name\": \"ja\"\x7d]".toList)] _ :=
    ⟨_, .inr (.cons .nil (hmember _ _ (by simp [isPlain_iff])) .nil
      (.cons hspace ⟨_, [], [' '], hkey, .nil, hspace, rfl⟩ .nil
      (.one hspace (hmember _ _ (by simp [isPlain_iff])) .nil))), rfl⟩
  have hgiven : IsGivenBy { ignores := ["😀"], locales := [⟨"ja", .comment⟩] }
      [("x", "[-0.5, \x7b\"\": \"\\uD83D\"\x7d]".toList),
        ("ignores", "[\"\\uD83D\\uDE00\"]".toList),
        ("locales",
          "[\x7b\"field\": \"translation\", \"x\": null, \"name\": \"ja\"\x7d]".toList)] :=
    { sourceExtensions := ⟨⟨by decide, by simp⟩, fun _ => rfl⟩
      ignores := ⟨⟨by decide, by simpa using hignores⟩, by simp⟩
      resourceFileName := ⟨⟨by decide, by simp⟩, fun _ => rfl⟩
      locales := ⟨⟨by decide, by simpa using hlocales⟩, by simp⟩
      other := by simpa using hx }
  obtain ⟨-, hread⟩ := ofText_members { ignores := ["😀"], locales := [⟨"ja", .comment⟩] }
  exact ⟨_, ['\n'], _, [' '], rfl, rfl, hu, hgiven, by simp, hread _ _ _ _ rfl rfl hu hgiven⟩

end LocalizedStrings.Config
