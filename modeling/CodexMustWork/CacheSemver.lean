import CodexMustWork.Library.DecimalText
import CodexMustWork.Library.JoinedFields
import Mathlib.Data.List.TakeWhile
import Mathlib.Data.Prod.Lex

/-!
# Versions of cached plugins

`cache_semver` decides which of two cached generations is newer.  A version text
is matched against the Semantic Versioning grammar, turned into a nested tuple
and compared as Python compares tuples.  Numbers of a prerelease are never
converted: they are compared as `(length, text)`.

The keys determine the texts, their order is a strict total order, and it refines
the precedence of Semantic Versioning 2.0.0, stated here on its own terms.
-/

namespace CodexMustWork

open DecimalText

/-! ### The version pattern -/

/-- The character class `[0-9A-Za-z-]`. -/
def isIdentifierChar (c : Char) : Bool :=
  c.isDigit || c.isUpper || c.isLower || c == '-'

/-- The pattern `(0|[1-9][0-9]*)`. -/
def matchesNumber (text : List Char) : Bool :=
  text == ['0'] || (text != [] && text.head? != some '0' && text.all Char.isDigit)

/-- The pattern `([0-9A-Za-z-]+(?:\.[0-9A-Za-z-]+)*)`. -/
def matchesIdentifiers (text : List Char) : Bool :=
  (text.splitOn '.').all fun part => part != [] && part.all isIdentifierChar

/-- The groups of a match of `_SEMVER`, 1 to 5. -/
structure SemverMatch where
  major : List Char
  minor : List Char
  patch : List Char
  prerelease : Option (List Char)
  build : Option (List Char)
deriving DecidableEq

/-- An optional part behind its marker. -/
def marked (marker : Char) : Option (List Char) → List Char
  | none => []
  | some text => marker :: text

/-- The text a match stands for. -/
def SemverMatch.text (m : SemverMatch) : List Char :=
  m.major ++ '.' :: (m.minor ++ '.' :: (m.patch ++ marked '-' m.prerelease)) ++ marked '+' m.build

/-- What the pattern asks of its groups. -/
structure SemverMatch.Shaped (m : SemverMatch) : Prop where
  major : matchesNumber m.major = true
  minor : matchesNumber m.minor = true
  patch : matchesNumber m.patch = true
  prerelease : ∀ text, m.prerelease = some text → matchesIdentifiers text = true
  build : ∀ text, m.build = some text → matchesIdentifiers text = true

/-- The text before the first marker, and the text after it when there is one. -/
def cutAt (marker : Char) (text : List Char) : List Char × Option (List Char) :=
  (text.takeWhile (· != marker),
    match text.dropWhile (· != marker) with
    | [] => none
    | _ :: rest => some rest)

/-- `_SEMVER.fullmatch`: a build part starts at the first `+`, a prerelease part
    at the first `-` before it, and three numbers come before both. -/
def semverFullmatch (value : List Char) : Option SemverMatch :=
  let front := cutAt '+' value
  let core := cutAt '-' front.1
  match core.1.splitOn '.' with
  | [major, minor, patch] =>
      if matchesNumber major && matchesNumber minor && matchesNumber patch &&
          core.2.all matchesIdentifiers && front.2.all matchesIdentifiers then
        some ⟨major, minor, patch, core.2, front.2⟩
      else none
  | _ => none

/-! ### Keys -/

/-- One identifier of a prerelease or build part, ordered as a Python tuple. -/
abbrev IdentifierKey := ℕ ×ₗ ℕ ×ₗ List Char ×ₗ ℕ

/-- The key of a version, ordered as a Python tuple. -/
abbrev VersionKey := ℕ ×ₗ ℕ ×ₗ ℕ ×ₗ (ℕ ×ₗ List IdentifierKey) ×ₗ List IdentifierKey

def u64Max : ℕ := 2 ^ 64 - 1

def u64Text : List Char := Nat.toDigits 10 u64Max

/-- `str.isdecimal` on the characters the pattern lets through. -/
def isDecimal (text : List Char) : Bool := text != [] && text.all Char.isDigit

def preKey (value : List Char) : IdentifierKey :=
  if isDecimal value then toLex (0, toLex (value.length, toLex (value, 0)))
  else toLex (1, toLex (0, toLex (value, 0)))

def buildKey (value : List Char) : IdentifierKey :=
  if !isDecimal value then toLex (1, toLex (0, toLex (value, 0)))
  else
    let significant := value.dropWhile (· == '0')
    toLex (0, toLex (significant.length, toLex (significant, value.length)))

/-- A core number above `_U64_MAX`, decided on its text. -/
def aboveU64 (component : List Char) : Bool :=
  decide (u64Text.length < component.length) ||
    (component.length == u64Text.length && decide (u64Text < component))

/-- A numeric identifier with a superfluous leading zero. -/
def zeroPadded (part : List Char) : Bool :=
  isDecimal part && decide (1 < part.length) && part.head? == some '0'

/-- The identifiers of a prerelease part. -/
def SemverMatch.preParts (m : SemverMatch) : List (List Char) :=
  match m.prerelease with
  | none => []
  | some text => text.splitOn '.'

/-- The identifiers of a build part; without one, one empty identifier. -/
def SemverMatch.buildParts (m : SemverMatch) : List (List Char) :=
  match m.build with
  | none => [[]]
  | some text => text.splitOn '.'

def preKeys (parts : List (List Char)) : ℕ ×ₗ List IdentifierKey :=
  if parts = [] then toLex (1, []) else toLex (0, parts.map preKey)

def SemverMatch.key (m : SemverMatch) : VersionKey :=
  toLex (value m.major, toLex (value m.minor, toLex (value m.patch,
    toLex (preKeys m.preParts, m.buildParts.map buildKey))))

def versionKey (value : String) : Option VersionKey :=
  match semverFullmatch value.toList with
  | none => none
  | some matched =>
      if [matched.major, matched.minor, matched.patch].any aboveU64 then none
      else if matched.preParts.any zeroPadded then none
      else some matched.key

/-- `higher`: by key, and by text when either value is no version. -/
def higher (candidate source : String) : Bool :=
  match versionKey candidate, versionKey source with
  | some candidateKey, some sourceKey => decide (sourceKey < candidateKey)
  | _, _ => decide (source.toList < candidate.toList)

/-! ### The pattern matches exactly the shaped texts -/

theorem cutAt_text (marker : Char) (text : List Char) :
    (cutAt marker text).1 ++ marked marker (cutAt marker text).2 = text := by
  have hsplit := List.takeWhile_append_dropWhile (p := (· != marker)) (l := text)
  cases hrest : text.dropWhile (· != marker) with
  | nil =>
    rw [hrest] at hsplit
    simpa [cutAt, hrest, marked] using hsplit
  | cons head rest =>
    have hne : text.dropWhile (· != marker) ≠ [] := by
      rw [hrest]
      exact List.cons_ne_nil _ _
    have heq : head = marker := by
      have hhead := List.head_dropWhile_not (· != marker) hne
      simpa [hrest] using hhead
    rw [hrest, heq] at hsplit
    simpa [cutAt, hrest, marked] using hsplit

/-- Cutting undoes putting a part behind a marker that the front is free of. -/
theorem cutAt_append {marker : Char} {front : List Char} (rest : Option (List Char))
    (hfree : marker ∉ front) :
    cutAt marker (front ++ marked marker rest) = (front, rest) := by
  have hall : ∀ c ∈ front, (c != marker) = true := by
    intro c hc
    have hne : c ≠ marker := fun heq => hfree (heq ▸ hc)
    simpa using hne
  cases rest with
  | none =>
    have htake : front.takeWhile (· != marker) = front := List.takeWhile_eq_self_iff.mpr hall
    have hdrop : front.dropWhile (· != marker) = [] := List.dropWhile_eq_nil_iff.mpr hall
    simp [cutAt, marked, htake, hdrop]
  | some text =>
    have htake : (front ++ marker :: text).takeWhile (· != marker) = front := by
      rw [List.takeWhile_append_of_pos hall]
      simp
    have hdrop : (front ++ marker :: text).dropWhile (· != marker) = marker :: text := by
      rw [List.dropWhile_append_of_pos hall]
      simp
    simp [cutAt, marked, htake, hdrop]

theorem matchesNumber_digits {text : List Char} (hmatch : matchesNumber text = true) :
    Canonical text := by
  simp only [matchesNumber, Bool.or_eq_true, beq_iff_eq, Bool.and_eq_true, bne_iff_ne,
    List.all_eq_true] at hmatch
  rcases hmatch with hzero | ⟨⟨hne, hhead⟩, hall⟩
  · subst hzero
    refine ⟨?_, by simp, Or.inl rfl⟩
    intro c hc
    simp only [List.mem_singleton] at hc
    subst hc
    rfl
  · exact ⟨hall, hne, Or.inr hhead⟩

/-- A character that is no digit does not occur in a number. -/
theorem matchesNumber_free {text : List Char} {c : Char} (hmatch : matchesNumber text = true)
    (hc : c.isDigit = false) : c ∉ text := by
  intro hmem
  rw [(matchesNumber_digits hmatch).digits c hmem] at hc
  cases hc

theorem mem_of_splitOn {marker c : Char} {text : List Char} (hc : c ∈ text)
    (hne : c ≠ marker) : ∃ part ∈ text.splitOn marker, c ∈ part := by
  induction text with
  | nil => simp at hc
  | cons head rest ih =>
    rw [List.splitOn_cons_eq_if_modifyHead]
    obtain ⟨first, others, hparts⟩ := List.exists_cons_of_ne_nil (List.splitOn_ne_nil marker rest)
    rcases List.mem_cons.mp hc with heq | hrest
    · subst heq
      have hbeq : (c == marker) = false := by simpa using hne
      simp [hbeq, hparts]
    · obtain ⟨part, hpart, hcpart⟩ := ih hrest
      rw [hparts] at hpart
      rcases List.mem_cons.mp hpart with heq | hother
      · subst heq
        split
        · exact ⟨part, by simp [hparts], hcpart⟩
        · exact ⟨head :: part, by simp [hparts], List.mem_cons_of_mem _ hcpart⟩
      · split
        · exact ⟨part, by simp [hparts, hother], hcpart⟩
        · exact ⟨part, by simp [hparts, hother], hcpart⟩

/-- A character outside the class does not occur among identifiers. -/
theorem matchesIdentifiers_free {text : List Char} {c : Char}
    (hmatch : matchesIdentifiers text = true) (hc : isIdentifierChar c = false)
    (hdot : c ≠ '.') : c ∉ text := by
  intro hmem
  obtain ⟨part, hpart, hcpart⟩ := mem_of_splitOn hmem hdot
  simp only [matchesIdentifiers, List.all_eq_true, Bool.and_eq_true] at hmatch
  rw [(hmatch part hpart).2 c hcpart] at hc
  cases hc

theorem splitOn_three {a b c : List Char} (ha : '.' ∉ a) (hb : '.' ∉ b) (hc : '.' ∉ c) :
    (a ++ '.' :: (b ++ '.' :: c)).splitOn '.' = [a, b, c] := by
  rw [List.splitOn_append_cons_self_of_not_mem ha, List.splitOn_append_cons_self_of_not_mem hb,
    List.splitOn_eq_singleton hc]

theorem eq_of_splitOn_three {text a b c : List Char} (hsplit : text.splitOn '.' = [a, b, c]) :
    text = a ++ '.' :: (b ++ '.' :: c) := by
  have hjoin : ['.'].intercalate (text.splitOn '.') = text := List.intercalate_splitOn '.'
  rw [hsplit] at hjoin
  simpa [List.intercalate] using hjoin.symm

/-- **What the pattern accepts.**  A text matches with groups `m` when the groups
    have the shapes the pattern names and the text is put together from them. -/
theorem semverFullmatch_eq_some_iff {value : List Char} {m : SemverMatch} :
    semverFullmatch value = some m ↔ m.Shaped ∧ m.text = value := by
  constructor
  · intro hmatch
    simp only [semverFullmatch] at hmatch
    split at hmatch
    case h_2 => cases hmatch
    case h_1 major minor patch hcore =>
      split at hmatch
      case isFalse => cases hmatch
      case isTrue hshapes =>
        cases hmatch
        simp only [Bool.and_eq_true, Option.all_eq_true] at hshapes
        obtain ⟨⟨⟨⟨hmajor, hminor⟩, hpatch⟩, hpre⟩, hbuild⟩ := hshapes
        refine ⟨⟨hmajor, hminor, hpatch, fun text htext => hpre text htext,
          fun text htext => hbuild text htext⟩, ?_⟩
        have hfront := cutAt_text '-' (cutAt '+' value).1
        rw [eq_of_splitOn_three hcore] at hfront
        have hvalue := cutAt_text '+' value
        rw [← hfront] at hvalue
        simpa [SemverMatch.text] using hvalue
  · rintro ⟨hshaped, rfl⟩
    have hplus : isIdentifierChar '+' = false := by decide
    have hcoreFree : ∀ c : Char, c.isDigit = false → c ≠ '.' →
        c ∉ m.major ++ '.' :: (m.minor ++ '.' :: m.patch) := by
      intro c hc hdot hmem
      simp only [List.mem_append, List.mem_cons] at hmem
      rcases hmem with hmem | heq | hmem | heq | hmem
      · exact matchesNumber_free hshaped.major hc hmem
      · exact hdot heq
      · exact matchesNumber_free hshaped.minor hc hmem
      · exact hdot heq
      · exact matchesNumber_free hshaped.patch hc hmem
    have hpreFree : '+' ∉ marked '-' m.prerelease := by
      cases hpre : m.prerelease with
      | none => simp [marked]
      | some text =>
        have := matchesIdentifiers_free (hshaped.prerelease text hpre) hplus (by decide)
        simpa [marked] using this
    have htext : m.text = (m.major ++ '.' :: (m.minor ++ '.' :: m.patch) ++
        marked '-' m.prerelease) ++ marked '+' m.build := by
      simp [SemverMatch.text]
    have hfrontFree : '+' ∉ m.major ++ '.' :: (m.minor ++ '.' :: m.patch) ++
        marked '-' m.prerelease := by
      intro hmem
      rcases List.mem_append.mp hmem with hcore | hpre
      · exact hcoreFree '+' (by decide) (by decide) hcore
      · exact hpreFree hpre
    have hcut := cutAt_append m.build hfrontFree
    have hcore := cutAt_append m.prerelease (hcoreFree '-' (by decide) (by decide))
    have hsplit := splitOn_three (matchesNumber_free hshaped.major (c := '.') (by decide))
      (matchesNumber_free hshaped.minor (c := '.') (by decide))
      (matchesNumber_free hshaped.patch (c := '.') (by decide))
    have hpreAll : m.prerelease.all matchesIdentifiers = true := by
      rw [Option.all_eq_true]
      exact hshaped.prerelease
    have hbuildAll : m.build.all matchesIdentifiers = true := by
      rw [Option.all_eq_true]
      exact hshaped.build
    simp only [semverFullmatch, htext, hcut, hcore, hsplit, hshaped.major, hshaped.minor,
      hshaped.patch, hpreAll, hbuildAll, Bool.and_self, if_true]

/-! ### The keys determine the texts -/

theorem preKey_inj {a b : List Char} : preKey a = preKey b ↔ a = b := by
  constructor
  · intro hkey
    unfold preKey at hkey
    split at hkey <;> split at hkey <;> simp at hkey
    · exact hkey.2
    · exact hkey
  · rintro rfl
    rfl

/-- A decimal text is its zeros followed by its significant digits. -/
theorem eq_replicate_append_dropWhile (text : List Char) :
    text = List.replicate (text.length - (text.dropWhile (· == '0')).length) '0' ++
      text.dropWhile (· == '0') := by
  have hsplit := List.takeWhile_append_dropWhile (p := (· == '0')) (l := text)
  have hzeros : text.takeWhile (· == '0') =
      List.replicate (text.takeWhile (· == '0')).length '0' := by
    rw [List.eq_replicate_iff]
    refine ⟨rfl, ?_⟩
    intro c hc
    simpa using List.mem_takeWhile_imp hc
  have hlength := congrArg List.length hsplit
  rw [List.length_append] at hlength
  have hcount : text.length - (text.dropWhile (· == '0')).length =
      (text.takeWhile (· == '0')).length := by omega
  rw [hcount, ← hzeros, hsplit]

theorem buildKey_inj {a b : List Char} : buildKey a = buildKey b ↔ a = b := by
  constructor
  · intro hkey
    simp only [buildKey] at hkey
    split at hkey <;> split at hkey <;> simp at hkey
    · exact hkey
    · obtain ⟨-, hsignificant, hlength⟩ := hkey
      rw [eq_replicate_append_dropWhile a, eq_replicate_append_dropWhile b, hsignificant, hlength]
  · rintro rfl
    rfl

theorem map_key_inj {key : List Char → IdentifierKey} (hkey : ∀ {a b}, key a = key b ↔ a = b)
    {parts parts' : List (List Char)} : parts.map key = parts'.map key ↔ parts = parts' :=
  (List.map_injective_iff.mpr fun _ _ heq => hkey.mp heq).eq_iff

theorem preKeys_inj {parts parts' : List (List Char)} :
    preKeys parts = preKeys parts' ↔ parts = parts' := by
  constructor
  · intro hkey
    unfold preKeys at hkey
    split at hkey <;> split at hkey <;> simp only [toLex_inj, Prod.mk.injEq] at hkey
    · rename_i hnil hnil'
      rw [hnil, hnil']
    · omega
    · omega
    · exact (map_key_inj preKey_inj).mp hkey.2
  · rintro rfl
    rfl

theorem splitOn_inj {marker : Char} {a b : List Char} :
    a.splitOn marker = b.splitOn marker ↔ a = b := by
  constructor
  · intro hsplit
    have hjoin : [marker].intercalate (a.splitOn marker) = a := List.intercalate_splitOn marker
    rw [← hjoin, hsplit, List.intercalate_splitOn]
  · rintro rfl
    rfl

theorem preParts_inj {m m' : SemverMatch} :
    m.preParts = m'.preParts ↔ m.prerelease = m'.prerelease := by
  unfold SemverMatch.preParts
  cases m.prerelease with
  | none =>
    cases m'.prerelease with
    | none => simp
    | some text' => simp
  | some text =>
    cases m'.prerelease with
    | none => simp
    | some text' => simp [splitOn_inj]

theorem matchesIdentifiers_parts {text : List Char} (hmatch : matchesIdentifiers text = true)
    {part : List Char} (hpart : part ∈ text.splitOn '.') :
    part ≠ [] ∧ ∀ c ∈ part, isIdentifierChar c = true := by
  simp only [matchesIdentifiers, List.all_eq_true, Bool.and_eq_true, bne_iff_ne] at hmatch
  exact hmatch part hpart

/-- An absent build part reads as an empty identifier, which no build part has. -/
theorem buildParts_inj {m m' : SemverMatch} (hm : m.Shaped) (hm' : m'.Shaped) :
    m.buildParts = m'.buildParts ↔ m.build = m'.build := by
  have hsome : ∀ {text : List Char}, matchesIdentifiers text = true →
      text.splitOn '.' ≠ [[]] := by
    intro text hmatch heq
    have hmem : [] ∈ text.splitOn '.' := by
      rw [heq]
      exact List.mem_singleton_self _
    exact (matchesIdentifiers_parts hmatch hmem).1 rfl
  unfold SemverMatch.buildParts
  cases hbuild : m.build with
  | none =>
    cases hbuild' : m'.build with
    | none => simp
    | some text' => simpa using (hsome (hm'.build text' hbuild')).symm
  | some text =>
    cases hbuild' : m'.build with
    | none => simpa using hsome (hm.build text hbuild)
    | some text' => simp [splitOn_inj]

theorem key_inj {m m' : SemverMatch} (hm : m.Shaped) (hm' : m'.Shaped) :
    m.key = m'.key ↔ m = m' := by
  constructor
  · intro hkey
    simp only [SemverMatch.key, toLex_inj, Prod.mk.injEq] at hkey
    obtain ⟨hmajor, hminor, hpatch, hpre, hbuild⟩ := hkey
    have hmajor' := (value_inj (matchesNumber_digits hm.major)
      (matchesNumber_digits hm'.major)).mp hmajor
    have hminor' := (value_inj (matchesNumber_digits hm.minor)
      (matchesNumber_digits hm'.minor)).mp hminor
    have hpatch' := (value_inj (matchesNumber_digits hm.patch)
      (matchesNumber_digits hm'.patch)).mp hpatch
    have hpre' := preParts_inj.mp (preKeys_inj.mp hpre)
    have hbuild' := (buildParts_inj hm hm').mp ((map_key_inj buildKey_inj).mp hbuild)
    cases m
    cases m'
    simp_all
  · rintro rfl
    rfl

/-- What `version_key` accepts, and the key it gives. -/
theorem versionKey_eq_some_iff {value : String} {key : VersionKey} :
    versionKey value = some key ↔ ∃ m : SemverMatch, m.Shaped ∧ m.text = value.toList ∧
      (∀ component ∈ [m.major, m.minor, m.patch], aboveU64 component = false) ∧
      (∀ part ∈ m.preParts, zeroPadded part = false) ∧ m.key = key := by
  constructor
  · intro hkey
    unfold versionKey at hkey
    split at hkey
    case h_1 => cases hkey
    case h_2 m hmatch =>
      obtain ⟨hshaped, htext⟩ := semverFullmatch_eq_some_iff.mp hmatch
      split at hkey
      case isTrue => cases hkey
      case isFalse hcore =>
        split at hkey
        case isTrue => cases hkey
        case isFalse hpadded =>
          simp only [Bool.not_eq_true, List.any_eq_false] at hcore hpadded
          exact ⟨m, hshaped, htext, hcore, hpadded, by simpa using hkey⟩
  · rintro ⟨m, hshaped, htext, hcore, hpadded, rfl⟩
    have hmatch := semverFullmatch_eq_some_iff.mpr ⟨hshaped, htext⟩
    have hcoreAny : [m.major, m.minor, m.patch].any aboveU64 = false := by
      rw [List.any_eq_false]
      intro component hcomponent
      simpa using hcore component hcomponent
    have hpaddedAny : m.preParts.any zeroPadded = false := by
      rw [List.any_eq_false]
      intro part hpart
      simpa using hpadded part hpart
    simp [versionKey, hmatch, hcoreAny, hpaddedAny]

/-- The bound on core numbers, checked on their texts, is a bound on their values. -/
theorem aboveU64_eq_false_iff {component : List Char} (hcanonical : Canonical component) :
    aboveU64 component = false ↔ value component ≤ u64Max := by
  have hmax : Canonical u64Text := canonical_toDigits u64Max
  have hvalue : value u64Text = u64Max := Nat.ofDigitChars_ten_toDigits
  rw [← not_iff_not, Bool.not_eq_false, Nat.not_le, ← hvalue, value_lt_iff hmax hcanonical]
  simp only [aboveU64, Bool.or_eq_true, decide_eq_true_eq, Bool.and_eq_true, beq_iff_eq]
  constructor
  · rintro (hlength | ⟨hlength, hlt⟩)
    · exact Or.inl hlength
    · exact Or.inr ⟨hlength.symm, hlt⟩
  · rintro (hlength | ⟨hlength, hlt⟩)
    · exact Or.inl hlength
    · exact Or.inr ⟨hlength.symm, hlt⟩

theorem versionKey_inj {a b : String} {ka kb : VersionKey} (ha : versionKey a = some ka)
    (hb : versionKey b = some kb) : ka = kb ↔ a = b := by
  constructor
  · intro hkey
    obtain ⟨m, hm, htext, -, -, rfl⟩ := versionKey_eq_some_iff.mp ha
    obtain ⟨m', hm', htext', -, -, rfl⟩ := versionKey_eq_some_iff.mp hb
    rw [(key_inj hm hm').mp hkey] at htext
    exact String.toList_inj.mp (htext.symm.trans htext')
  · rintro rfl
    exact Option.some.inj (ha.symm.trans hb)

/-! ### Precedence of Semantic Versioning 2.0.0 -/

/-- A prerelease identifier: a number or an alphanumeric text. -/
inductive SemverIdentifier where
  | numeric (number : ℕ)
  | alphanumeric (text : List Char)

/-- Numbers compare as numbers, texts in ASCII order, and numbers come first. -/
def SemverIdentifier.Precedes : SemverIdentifier → SemverIdentifier → Prop
  | .numeric m, .numeric n => m < n
  | .numeric _, .alphanumeric _ => True
  | .alphanumeric _, .numeric _ => False
  | .alphanumeric s, .alphanumeric t => s < t

/-- The part of a version that precedence looks at. -/
structure Semver where
  major : ℕ
  minor : ℕ
  patch : ℕ
  prerelease : List SemverIdentifier

/-- Section 11 of the specification: the three numbers, then releases above
    prereleases, then the first differing identifier, then the longer list. -/
inductive Semver.Precedes (a b : Semver) : Prop where
  | major : a.major < b.major → Precedes a b
  | minor : a.major = b.major → a.minor < b.minor → Precedes a b
  | patch : a.major = b.major → a.minor = b.minor → a.patch < b.patch → Precedes a b
  | release : a.major = b.major → a.minor = b.minor → a.patch = b.patch →
      a.prerelease ≠ [] → b.prerelease = [] → Precedes a b
  | prerelease : a.major = b.major → a.minor = b.minor → a.patch = b.patch →
      a.prerelease ≠ [] → b.prerelease ≠ [] →
      List.Lex SemverIdentifier.Precedes a.prerelease b.prerelease → Precedes a b

def semverIdentifier (part : List Char) : SemverIdentifier :=
  if isDecimal part then .numeric (value part) else .alphanumeric part

/-- The version a match denotes. -/
def SemverMatch.semver (m : SemverMatch) : Semver where
  major := value m.major
  minor := value m.minor
  patch := value m.patch
  prerelease := m.preParts.map semverIdentifier

/-- Precedence of two version texts. -/
def SemverPrecedes (a b : String) : Prop :=
  ∃ m m', semverFullmatch a.toList = some m ∧ semverFullmatch b.toList = some m' ∧
    m.semver.Precedes m'.semver

/-! ### The keys refine precedence -/

theorem canonical_of_isDecimal {part : List Char} (hdecimal : isDecimal part = true)
    (hpadded : zeroPadded part = false) : Canonical part := by
  simp only [isDecimal, Bool.and_eq_true, bne_iff_ne, List.all_eq_true] at hdecimal
  refine ⟨hdecimal.2, hdecimal.1, ?_⟩
  by_cases hhead : part.head? = some '0'
  · left
    have hlength : ¬ 1 < part.length := by
      intro hlt
      simp [zeroPadded, isDecimal, hdecimal.1, hhead, hlt] at hpadded
      obtain ⟨c, hc, hdigit⟩ := hpadded
      rw [hdecimal.2 c hc] at hdigit
      cases hdigit
    cases part with
    | nil => cases hhead
    | cons c rest =>
      have hrest : rest = [] := by
        cases rest with
        | nil => rfl
        | cons d rest => simp at hlength
      simp only [List.head?_cons, Option.some.injEq] at hhead
      rw [hhead, hrest]
  · exact Or.inr hhead

/-- `(length, text)` orders numbers of any length by value. -/
theorem preKey_lt_of_precedes {a b : List Char} (ha : zeroPadded a = false)
    (hb : zeroPadded b = false) (hprecedes : (semverIdentifier a).Precedes (semverIdentifier b)) :
    preKey a < preKey b := by
  unfold semverIdentifier at hprecedes
  unfold preKey
  split at hprecedes
  case isTrue hdecimal =>
    rw [if_pos hdecimal]
    split at hprecedes
    case isTrue hdecimal' =>
      have hvalue := (value_lt_iff (canonical_of_isDecimal hdecimal ha)
        (canonical_of_isDecimal hdecimal' hb)).mp hprecedes
      rw [if_pos hdecimal']
      simpa [Prod.Lex.toLex_lt_toLex] using hvalue
    case isFalse hdecimal' =>
      rw [if_neg hdecimal']
      simp [Prod.Lex.toLex_lt_toLex]
  case isFalse hdecimal =>
    rw [if_neg hdecimal]
    split at hprecedes
    case isTrue hdecimal' => exact hprecedes.elim
    case isFalse hdecimal' =>
      have hlt : a < b := hprecedes
      rw [if_neg hdecimal']
      simpa [Prod.Lex.toLex_lt_toLex] using hlt

theorem semverIdentifier_inj {a b : List Char} (ha : zeroPadded a = false)
    (hb : zeroPadded b = false) (heq : semverIdentifier a = semverIdentifier b) : a = b := by
  unfold semverIdentifier at heq
  split at heq
  case isTrue hdecimal =>
    split at heq
    case isTrue hdecimal' =>
      exact (value_inj (canonical_of_isDecimal hdecimal ha)
        (canonical_of_isDecimal hdecimal' hb)).mp (SemverIdentifier.numeric.inj heq)
    case isFalse => cases heq
  case isFalse =>
    split at heq
    case isTrue => cases heq
    case isFalse => exact SemverIdentifier.alphanumeric.inj heq

/-- Lists of identifiers: the first difference decides, then the length. -/
theorem map_preKey_lt {parts parts' : List (List Char)}
    (hparts : ∀ part ∈ parts, zeroPadded part = false)
    (hparts' : ∀ part ∈ parts', zeroPadded part = false)
    (hlex : List.Lex SemverIdentifier.Precedes (parts.map semverIdentifier)
      (parts'.map semverIdentifier)) :
    parts.map preKey < parts'.map preKey := by
  induction parts generalizing parts' with
  | nil =>
    cases parts' with
    | nil => cases hlex
    | cons part' rest' => exact List.nil_lt_cons _ _
  | cons part rest ih =>
    cases parts' with
    | nil => cases hlex
    | cons part' rest' =>
      have hpart := hparts part (List.mem_cons_self)
      have hpart' := hparts' part' (List.mem_cons_self)
      have hrest : ∀ p ∈ rest, zeroPadded p = false := fun p hp =>
        hparts p (List.mem_cons_of_mem _ hp)
      have hrest' : ∀ p ∈ rest', zeroPadded p = false := fun p hp =>
        hparts' p (List.mem_cons_of_mem _ hp)
      simp only [List.map_cons] at hlex ⊢
      rw [List.cons_lt_cons_iff]
      generalize hleft : semverIdentifier part = left at hlex
      generalize hright : semverIdentifier part' = right at hlex
      cases hlex with
      | rel hhead =>
        subst hleft
        subst hright
        exact Or.inl (preKey_lt_of_precedes hpart hpart' hhead)
      | cons htail =>
        have heq := semverIdentifier_inj hpart hpart' (hleft.trans hright.symm)
        exact Or.inr ⟨by rw [heq], ih hrest hrest' htail⟩

/-- Precedence of the denoted versions is order of the keys. -/
theorem key_lt_of_precedes {m m' : SemverMatch}
    (hm : ∀ part ∈ m.preParts, zeroPadded part = false)
    (hm' : ∀ part ∈ m'.preParts, zeroPadded part = false)
    (hprecedes : m.semver.Precedes m'.semver) : m.key < m'.key := by
  simp only [SemverMatch.key, Prod.Lex.toLex_lt_toLex]
  cases hprecedes with
  | major hmajor => exact Or.inl hmajor
  | minor hmajor hminor => exact Or.inr ⟨hmajor, Or.inl hminor⟩
  | patch hmajor hminor hpatch =>
    exact Or.inr ⟨hmajor, Or.inr ⟨hminor, Or.inl hpatch⟩⟩
  | release hmajor hminor hpatch hpre hrelease =>
    refine Or.inr ⟨hmajor, Or.inr ⟨hminor, Or.inr ⟨hpatch, Or.inl ?_⟩⟩⟩
    have hparts : m.preParts ≠ [] := by
      simpa [SemverMatch.semver] using hpre
    have hparts' : m'.preParts = [] := by
      simpa [SemverMatch.semver] using hrelease
    simp [preKeys, hparts, hparts', Prod.Lex.toLex_lt_toLex]
  | prerelease hmajor hminor hpatch hpre hpre' hlex =>
    refine Or.inr ⟨hmajor, Or.inr ⟨hminor, Or.inr ⟨hpatch, Or.inl ?_⟩⟩⟩
    have hparts : m.preParts ≠ [] := by
      simpa [SemverMatch.semver] using hpre
    have hparts' : m'.preParts ≠ [] := by
      simpa [SemverMatch.semver] using hpre'
    have hlt := map_preKey_lt hm hm' hlex
    simp [preKeys, hparts, hparts', Prod.Lex.toLex_lt_toLex, hlt]

theorem versionKey_lt_of_precedes {a b : String} {ka kb : VersionKey}
    (ha : versionKey a = some ka) (hb : versionKey b = some kb) (hprecedes : SemverPrecedes a b) :
    ka < kb := by
  obtain ⟨m, m', hmatch, hmatch', hlt⟩ := hprecedes
  obtain ⟨n, hn, htext, -, hpadded, rfl⟩ := versionKey_eq_some_iff.mp ha
  obtain ⟨n', hn', htext', -, hpadded', rfl⟩ := versionKey_eq_some_iff.mp hb
  rw [semverFullmatch_eq_some_iff.mpr ⟨hn, htext⟩] at hmatch
  rw [semverFullmatch_eq_some_iff.mpr ⟨hn', htext'⟩] at hmatch'
  cases hmatch
  cases hmatch'
  exact key_lt_of_precedes hpadded hpadded' hlt

theorem higher_of_keys {a b : String} {ka kb : VersionKey} (ha : versionKey a = some ka)
    (hb : versionKey b = some kb) : higher a b = true ↔ kb < ka := by
  simp [higher, ha, hb]

end CodexMustWork
