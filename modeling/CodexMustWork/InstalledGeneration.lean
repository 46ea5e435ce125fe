import CodexMustWork.CacheSemver
import Mathlib.Data.List.Perm.Basic

/-!
# Selecting a generation

Two places choose between versions of the plugin.  `select_generation` keeps the
configured generation or takes the requested one; `selected_cache_root` walks the
cache directory and keeps the highest entry that qualifies.  Both are maxima of
the order of `CacheSemver`.
-/

namespace CodexMustWork

/-- A failure of the installer with its stable code. -/
structure InstallPluginError where
  reasonCode : String
  detail : Option String
deriving DecidableEq, Repr

/-- `_fail(reason)`. -/
def failWith {α : Type*} (reason : String) : Except InstallPluginError α :=
  .error ⟨reason, none⟩

/-! ### Configured or requested -/

/-- A generation bound to the directory it was read from. -/
structure InstalledGeneration where
  version : String
  root : String
  digest : String
  identity : ℕ × ℕ
deriving DecidableEq, Repr

def canonicalKey (version : String) : Except InstallPluginError VersionKey :=
  match versionKey version with
  | none => failWith "installed_generation_version_invalid"
  | some parsed => .ok parsed

def selectGeneration (configured : Option InstalledGeneration)
    (requested : InstalledGeneration) : Except InstallPluginError InstalledGeneration := do
  let requestedKey ← canonicalKey requested.version
  match configured with
  | none => pure requested
  | some configured =>
      let configuredKey ← canonicalKey configured.version
      if requestedKey < configuredKey then pure configured
      else if configuredKey < requestedKey then pure requested
      else if configured.digest ≠ requested.digest then
        failWith "installed_generation_conflict"
      else pure configured

/-- The generations `select_generation` chooses from. -/
def generationCandidates (configured : Option InstalledGeneration)
    (requested : InstalledGeneration) : List InstalledGeneration :=
  configured.toList ++ [requested]

/-- The same version twice with different contents. -/
def GenerationConflict (configured : Option InstalledGeneration)
    (requested : InstalledGeneration) : Prop :=
  ∃ c, configured = some c ∧ c.version = requested.version ∧ c.digest ≠ requested.digest

theorem canonicalKey_of_some {version : String} {key : VersionKey}
    (hkey : versionKey version = some key) : canonicalKey version = .ok key := by
  simp [canonicalKey, hkey]

/-- With accepted versions and no conflict the result is a candidate that no
    other candidate is above. -/
theorem selectGeneration_max {configured : Option InstalledGeneration}
    {requested : InstalledGeneration}
    (hversions : ∀ g ∈ generationCandidates configured requested, versionKey g.version ≠ none)
    (hconflict : ¬ GenerationConflict configured requested) :
    ∃ selected, selectGeneration configured requested = .ok selected ∧
      selected ∈ generationCandidates configured requested ∧
      ∀ g ∈ generationCandidates configured requested,
        higher g.version selected.version = false := by
  have hirrefl : ∀ g ∈ generationCandidates configured requested,
      higher g.version g.version = false := by
    intro g hg
    obtain ⟨key, hkey⟩ := Option.ne_none_iff_exists'.mp (hversions g hg)
    simp [higher, hkey]
  obtain ⟨kr, hkr⟩ := Option.ne_none_iff_exists'.mp
    (hversions requested (by simp [generationCandidates]))
  cases configured with
  | none =>
    refine ⟨requested, ?_, by simp [generationCandidates], ?_⟩
    · simp [selectGeneration, canonicalKey_of_some hkr, bind, Except.bind, pure, Except.pure]
    · intro g hg
      have heq : g = requested := by simpa [generationCandidates] using hg
      rw [heq]
      exact hirrefl requested (by simp [generationCandidates])
  | some c =>
    obtain ⟨kc, hkc⟩ := Option.ne_none_iff_exists'.mp
      (hversions c (by simp [generationCandidates]))
    have hc : c ∈ generationCandidates (some c) requested := by simp [generationCandidates]
    have hr : requested ∈ generationCandidates (some c) requested := by
      simp [generationCandidates]
    have hcases : ∀ {selected : InstalledGeneration}, higher c.version selected.version = false →
        higher requested.version selected.version = false →
        ∀ g ∈ generationCandidates (some c) requested,
          higher g.version selected.version = false := by
      intro selected hforc hforr g hg
      have : g = c ∨ g = requested := by simpa [generationCandidates] using hg
      rcases this with rfl | rfl
      · exact hforc
      · exact hforr
    have hrun : selectGeneration (some c) requested =
        (if kr < kc then .ok c
          else if kc < kr then .ok requested
          else if c.digest ≠ requested.digest then failWith "installed_generation_conflict"
          else .ok c) := by
      simp [selectGeneration, canonicalKey_of_some hkr, canonicalKey_of_some hkc, bind, Except.bind,
        pure, Except.pure]
    rcases lt_trichotomy kr kc with hlt | heq | hgt
    · refine ⟨c, by rw [hrun, if_pos hlt], hc, hcases (hirrefl c hc) ?_⟩
      rw [Bool.eq_false_iff]
      intro hhigher
      exact lt_asymm hlt ((higher_of_keys hkr hkc).mp hhigher)
    · have hversion : c.version = requested.version := (versionKey_inj hkc hkr).mp heq.symm
      have hdigest : c.digest = requested.digest := by
        by_contra hne
        exact hconflict ⟨c, rfl, hversion, hne⟩
      refine ⟨c, ?_, hc, hcases (hirrefl c hc) ?_⟩
      · rw [hrun, if_neg (by rw [heq]; exact lt_irrefl _), if_neg (by rw [heq]; exact lt_irrefl _),
          if_neg (not_not_intro hdigest)]
      · rw [hversion]
        exact hirrefl requested hr
    · refine ⟨requested, by rw [hrun, if_neg (lt_asymm hgt), if_pos hgt], hr,
        hcases ?_ (hirrefl requested hr)⟩
      rw [Bool.eq_false_iff]
      intro hhigher
      exact lt_asymm hgt ((higher_of_keys hkc hkr).mp hhigher)

/-- A conflict is refused. -/
theorem selectGeneration_conflict {configured : Option InstalledGeneration}
    {requested : InstalledGeneration} (hversion : versionKey requested.version ≠ none)
    (hconflict : GenerationConflict configured requested) :
    selectGeneration configured requested = failWith "installed_generation_conflict" := by
  obtain ⟨c, rfl, hsame, hdigest⟩ := hconflict
  obtain ⟨kr, hkr⟩ := Option.ne_none_iff_exists'.mp hversion
  have hkc : versionKey c.version = some kr := by rw [hsame, hkr]
  simp [selectGeneration, canonicalKey_of_some hkr, canonicalKey_of_some hkc, bind, Except.bind,
    hdigest]

/-! ### The cache directory -/

/-- What a file-system call of the walk can raise. -/
inductive PathError where
  | os
  | runtime
deriving DecidableEq, Repr

/-- What reading a manifest can raise.  `value` is the `ValueError` of a JSON
    integer with too many digits, which is no `JSONDecodeError`. -/
inductive ManifestError where
  | installPlugin
  | os
  | runtime
  | value
deriving DecidableEq, Repr

/-- `S_ISDIR` and `S_ISLNK` of a mode. -/
structure FileMode where
  directory : Bool
  symlink : Bool
deriving DecidableEq, Repr

/-- The fields of a plugin manifest the selection reads. -/
structure ManifestIdentity where
  name : String
  version : String
deriving DecidableEq, Repr

/-- What the directory shows of one entry. -/
structure CacheEntry where
  path : String
  lstat : Except PathError FileMode
  manifest : Except ManifestError ManifestIdentity
  resolve : Except PathError String

/-- The directory of cached versions and its entries by name. -/
structure CacheVersions where
  path : String
  lstat : Except PathError FileMode
  resolve : Except PathError String
  iterdir : Except PathError (List String)
  entry : String → CacheEntry

def pluginName : String := "codex-must-work"

/-- The names to walk: those in a real directory that is its own resolution. -/
def CacheVersions.candidates (versions : CacheVersions) : List String :=
  match versions.lstat, versions.resolve, versions.iterdir with
  | .ok metadata, .ok resolved, .ok names =>
      if metadata.directory && !metadata.symlink && resolved == versions.path then names else []
  | _, _, _ => []

/-- The checks of the loop's `try` on an entry whose manifest was read. -/
def CacheEntry.direct (candidate : CacheEntry) (name : String) (metadata : FileMode)
    (manifest : ManifestIdentity) : Bool :=
  (versionKey name).isSome && manifest.name == pluginName && manifest.version == name &&
    metadata.directory && !metadata.symlink &&
    (match candidate.resolve with
      | .ok resolved => resolved == candidate.path
      | .error _ => false)

/-- `key` of an entry that is `direct`, for one pass of the loop.  The `except`
    clause names every error but `value`, which leaves the loop. -/
def CacheVersions.check (versions : CacheVersions) (name : String) :
    Except ManifestError (Option VersionKey) :=
  match (versions.entry name).lstat with
  | .error _ => .ok none
  | .ok metadata =>
      match (versions.entry name).manifest with
      | .error .value => .error .value
      | .error _ => .ok none
      | .ok manifest =>
          if (versions.entry name).direct name metadata manifest then .ok (versionKey name)
          else .ok none

/-- Keep the higher of what is selected and a key just found. -/
def keepHigher (selected : Option (VersionKey × String)) (name : String) :
    Option VersionKey → Option (VersionKey × String)
  | none => selected
  | some key =>
      match selected with
      | none => some (key, name)
      | some best => if best.1 < key then some (key, name) else some best

/-- The loop over the candidates. -/
def CacheVersions.select (versions : CacheVersions) :
    Option (VersionKey × String) → List String → Except ManifestError (Option (VersionKey × String))
  | selected, [] => .ok selected
  | selected, name :: names =>
      match versions.check name with
      | .error error => .error error
      | .ok key => versions.select (keepHigher selected name key) names

/-- `selected_cache_root`, naming the entry it returns. -/
def selectedCacheRoot (versions : CacheVersions) : Except ManifestError (Option String) :=
  match versions.select none versions.candidates with
  | .error error => .error error
  | .ok selected => .ok (selected.map Prod.snd)

/-- A listed entry that the selection may return. -/
def CacheVersions.Qualified (versions : CacheVersions) (name : String) : Prop :=
  name ∈ versions.candidates ∧ ∃ key, versions.check name = .ok (some key)

/-- No manifest of the directory raises an error the loop does not name. -/
def CacheVersions.Caught (versions : CacheVersions) : Prop :=
  ∀ name ∈ versions.candidates, versions.check name ≠ .error .value

theorem check_key {versions : CacheVersions} {name : String} {key : VersionKey}
    (hcheck : versions.check name = .ok (some key)) : versionKey name = some key := by
  unfold CacheVersions.check at hcheck
  split at hcheck
  case h_1 => cases hcheck
  case h_2 =>
    split at hcheck
    case h_1 => cases hcheck
    case h_2 => cases hcheck
    case h_3 =>
      split at hcheck
      case isTrue => exact Except.ok.inj hcheck
      case isFalse => cases hcheck

/-- The error a check can raise. -/
theorem check_error {versions : CacheVersions} {name : String} {error : ManifestError}
    (hcheck : versions.check name = .error error) : error = .value := by
  unfold CacheVersions.check at hcheck
  split at hcheck
  case h_1 => cases hcheck
  case h_2 =>
    split at hcheck
    case h_1 => exact (Except.error.inj hcheck).symm
    case h_2 => cases hcheck
    case h_3 => split at hcheck <;> cases hcheck

/-- What the loop has selected after walking `seen`: nothing when nothing there
    qualifies, otherwise a highest qualifying entry. -/
structure CacheVersions.Highest (versions : CacheVersions) (seen : List String)
    (selected : Option (VersionKey × String)) : Prop where
  found : ∀ best, selected = some best → best.2 ∈ seen ∧ versions.check best.2 = .ok (some best.1)
  highest : ∀ name ∈ seen, ∀ key, versions.check name = .ok (some key) →
    ∃ best, selected = some best ∧ key ≤ best.1

theorem CacheVersions.Highest.nil (versions : CacheVersions) : versions.Highest [] none := by
  refine ⟨?_, ?_⟩
  · intro best hbest
    cases hbest
  · intro name hname
    cases hname

/-- One pass keeps the highest entry seen. -/
theorem CacheVersions.Highest.step {versions : CacheVersions} {seen : List String}
    {selected : Option (VersionKey × String)} (hhighest : versions.Highest seen selected)
    {name : String} {checked : Option VersionKey} (hcheck : versions.check name = .ok checked) :
    versions.Highest (seen ++ [name]) (keepHigher selected name checked) := by
  cases checked with
  | none =>
    refine ⟨?_, ?_⟩
    · intro best hbest
      obtain ⟨hmem, hkey⟩ := hhighest.found best hbest
      exact ⟨List.mem_append_left _ hmem, hkey⟩
    · intro other hother key hkey
      rcases List.mem_append.mp hother with hseen | hlast
      · exact hhighest.highest other hseen key hkey
      · rw [List.mem_singleton.mp hlast, hcheck] at hkey
        cases hkey
  | some key =>
    cases selected with
    | none =>
      refine ⟨?_, ?_⟩
      · intro best hbest
        cases hbest
        exact ⟨by simp, hcheck⟩
      · intro other hother k hk
        rcases List.mem_append.mp hother with hseen | hlast
        · obtain ⟨best, hbest, -⟩ := hhighest.highest other hseen k hk
          cases hbest
        · rw [List.mem_singleton.mp hlast, hcheck] at hk
          cases hk
          exact ⟨(key, name), rfl, le_refl _⟩
    | some best =>
      obtain ⟨hmem, hbest⟩ := hhighest.found best rfl
      have hseenLe : ∀ other ∈ seen, ∀ k, versions.check other = .ok (some k) → k ≤ best.1 := by
        intro other hseen k hk
        obtain ⟨b, hb, hle⟩ := hhighest.highest other hseen k hk
        cases hb
        exact hle
      by_cases hlt : best.1 < key
      · have hkeep : keepHigher (some best) name (some key) = some (key, name) := by
          simp [keepHigher, hlt]
        rw [hkeep]
        refine ⟨?_, ?_⟩
        · intro b hb
          cases hb
          exact ⟨by simp, hcheck⟩
        · intro other hother k hk
          refine ⟨(key, name), rfl, ?_⟩
          rcases List.mem_append.mp hother with hseen | hlast
          · exact le_trans (hseenLe other hseen k hk) (le_of_lt hlt)
          · rw [List.mem_singleton.mp hlast, hcheck] at hk
            cases hk
            exact le_refl _
      · have hkeep : keepHigher (some best) name (some key) = some best := by
          simp [keepHigher, hlt]
        rw [hkeep]
        refine ⟨?_, ?_⟩
        · intro b hb
          cases hb
          exact ⟨List.mem_append_left _ hmem, hbest⟩
        · intro other hother k hk
          refine ⟨best, rfl, ?_⟩
          rcases List.mem_append.mp hother with hseen | hlast
          · exact hseenLe other hseen k hk
          · rw [List.mem_singleton.mp hlast, hcheck] at hk
            cases hk
            exact not_lt.mp hlt

/-- The whole loop. -/
theorem select_highest {versions : CacheVersions} {names : List String}
    (hcaught : ∀ name ∈ names, versions.check name ≠ .error .value) {seen : List String}
    {selected : Option (VersionKey × String)} (hhighest : versions.Highest seen selected) :
    ∃ final, versions.select selected names = .ok final ∧
      versions.Highest (seen ++ names) final := by
  induction names generalizing seen selected with
  | nil => exact ⟨selected, rfl, by simpa using hhighest⟩
  | cons name names ih =>
    cases hcheck : versions.check name with
    | error error =>
      have hvalue := check_error hcheck
      rw [hvalue] at hcheck
      exact absurd hcheck (hcaught name List.mem_cons_self)
    | ok checked =>
      obtain ⟨final, hfinal, hhigh⟩ := ih
        (fun other hother => hcaught other (List.mem_cons_of_mem _ hother)) (hhighest.step hcheck)
      refine ⟨final, ?_, by simpa using hhigh⟩
      simp only [CacheVersions.select, hcheck]
      exact hfinal

/-- The selection is a highest qualifying entry, and there is one when any entry
    qualifies. -/
theorem selectedCacheRoot_max {versions : CacheVersions} (hcaught : versions.Caught) :
    ∃ root, selectedCacheRoot versions = .ok root ∧
      (∀ name, root = some name → versions.Qualified name) ∧
      ∀ name, versions.Qualified name →
        ∃ best, root = some best ∧ (name = best ∨ higher best name = true) := by
  obtain ⟨final, hfinal, hhigh⟩ := select_highest hcaught (CacheVersions.Highest.nil versions)
  rw [List.nil_append] at hhigh
  refine ⟨final.map Prod.snd, by simp [selectedCacheRoot, hfinal], ?_, ?_⟩
  · intro name hname
    obtain ⟨best, hbest, rfl⟩ := Option.map_eq_some_iff.mp hname
    obtain ⟨hmem, hkey⟩ := hhigh.found best hbest
    exact ⟨hmem, best.1, hkey⟩
  · rintro name ⟨hmem, key, hkey⟩
    obtain ⟨best, hbest, hle⟩ := hhigh.highest name hmem key hkey
    refine ⟨best.2, by simp [hbest], ?_⟩
    have hbestKey := check_key (hhigh.found best hbest).2
    rcases lt_or_eq_of_le hle with hlt | heq
    · exact Or.inr ((higher_of_keys hbestKey (check_key hkey)).mpr hlt)
    · exact Or.inl ((versionKey_inj (check_key hkey) hbestKey).mp heq)

/-- The entries listed again in another order. -/
def CacheVersions.relisted (versions : CacheVersions) (names : List String) : CacheVersions :=
  { versions with iterdir := .ok names }

theorem mem_candidates_relisted {versions : CacheVersions} {names names' : List String}
    (hlist : versions.iterdir = .ok names) (hsame : names.Perm names') (name : String) :
    name ∈ (versions.relisted names').candidates ↔ name ∈ versions.candidates := by
  cases hlstat : versions.lstat with
  | error error => simp [CacheVersions.candidates, CacheVersions.relisted, hlstat]
  | ok metadata =>
    cases hresolve : versions.resolve with
    | error error => simp [CacheVersions.candidates, CacheVersions.relisted, hlstat, hresolve]
    | ok resolved =>
      simp only [CacheVersions.candidates, CacheVersions.relisted, hlist, hlstat, hresolve]
      split
      · exact hsame.mem_iff.symm
      · exact Iff.rfl

/-- Which entry is selected does not depend on the order of the listing. -/
theorem selectedCacheRoot_relisted {versions : CacheVersions} (hcaught : versions.Caught)
    {names names' : List String} (hlist : versions.iterdir = .ok names)
    (hsame : names.Perm names') :
    selectedCacheRoot (versions.relisted names') = selectedCacheRoot versions := by
  have hmem := mem_candidates_relisted hlist hsame
  have hcaught' : (versions.relisted names').Caught := fun name hname =>
    hcaught name ((hmem name).mp hname)
  have hqualified : ∀ name, (versions.relisted names').Qualified name ↔
      versions.Qualified name := fun name => and_congr_left' (hmem name)
  obtain ⟨root, hroot, hfound, hbest⟩ := selectedCacheRoot_max hcaught
  obtain ⟨root', hroot', hfound', hbest'⟩ := selectedCacheRoot_max hcaught'
  rw [hroot, hroot']
  congr 1
  cases root with
  | none =>
    cases root' with
    | none => rfl
    | some name' =>
      obtain ⟨best, hnone, -⟩ := hbest name' ((hqualified name').mp (hfound' name' rfl))
      cases hnone
  | some name =>
    have hname := hfound name rfl
    obtain ⟨best', hsome, habove⟩ := hbest' name ((hqualified name).mpr hname)
    rw [hsome]
    have hbestName := (hqualified best').mp (hfound' best' hsome)
    obtain ⟨best, heq, habove'⟩ := hbest best' hbestName
    cases heq
    rcases habove with rfl | habove
    · rfl
    · rcases habove' with rfl | habove'
      · rfl
      · obtain ⟨key, hkey⟩ := hname.2
        obtain ⟨key', hkey'⟩ := hbestName.2
        have hlt := (higher_of_keys (check_key hkey') (check_key hkey)).mp habove
        have hlt' := (higher_of_keys (check_key hkey) (check_key hkey')).mp habove'
        exact absurd hlt' (lt_asymm hlt)

/-! ### The order of versions and what is selected by it -/

/-- The order of accepted versions is a strict total order. -/
theorem higher_strictTotalOrder :
    IsStrictTotalOrder { version : String // versionKey version ≠ none }
      (fun a b => higher a.1 b.1 = true) := by
  have hkeys : ∀ a : { version : String // versionKey version ≠ none },
      ∃ key, versionKey a.1 = some key := fun a => Option.ne_none_iff_exists'.mp a.2
  refine { trichotomous := ?_, irrefl := ?_, trans := ?_ }
  · intro a b hab hba
    obtain ⟨ka, ha⟩ := hkeys a
    obtain ⟨kb, hb⟩ := hkeys b
    rw [higher_of_keys ha hb] at hab
    rw [higher_of_keys hb ha] at hba
    exact Subtype.ext ((versionKey_inj ha hb).mp (le_antisymm (not_lt.mp hab) (not_lt.mp hba)))
  · intro a ha
    obtain ⟨ka, hka⟩ := hkeys a
    rw [higher_of_keys hka hka] at ha
    exact lt_irrefl _ ha
  · intro a b c hab hbc
    obtain ⟨ka, ha⟩ := hkeys a
    obtain ⟨kb, hb⟩ := hkeys b
    obtain ⟨kc, hc⟩ := hkeys c
    rw [higher_of_keys ha hb] at hab
    rw [higher_of_keys hb hc] at hbc
    rw [higher_of_keys ha hc]
    exact lt_trans hbc hab

/-- **Versions are ordered, and the highest is selected.**  Keys determine
    versions, the order is strict and total and refines precedence, and both
    selections return a maximum, whatever the order of the listing. -/
theorem version_order_and_selection :
    (∀ a b ka kb, versionKey a = some ka → versionKey b = some kb → (ka = kb ↔ a = b)) ∧
    IsStrictTotalOrder { version : String // versionKey version ≠ none }
      (fun a b => higher a.1 b.1 = true) ∧
    (∀ a b, versionKey a ≠ none → versionKey b ≠ none → SemverPrecedes a b →
      higher b a = true) ∧
    (∀ configured requested,
      (∀ g ∈ generationCandidates configured requested, versionKey g.version ≠ none) →
      (GenerationConflict configured requested →
        selectGeneration configured requested = failWith "installed_generation_conflict") ∧
      (¬ GenerationConflict configured requested →
        ∃ selected, selectGeneration configured requested = .ok selected ∧
          selected ∈ generationCandidates configured requested ∧
          ∀ g ∈ generationCandidates configured requested,
            higher g.version selected.version = false)) ∧
    (∀ versions : CacheVersions, versions.Caught →
      (∃ root, selectedCacheRoot versions = .ok root ∧
        (∀ name, root = some name → versions.Qualified name) ∧
        ∀ name, versions.Qualified name →
          ∃ best, root = some best ∧ (name = best ∨ higher best name = true)) ∧
      ∀ names names', versions.iterdir = .ok names → names.Perm names' →
        selectedCacheRoot (versions.relisted names') = selectedCacheRoot versions) := by
  refine ⟨fun a b ka kb ha hb => versionKey_inj ha hb, higher_strictTotalOrder, ?_, ?_, ?_⟩
  · intro a b ha hb hprecedes
    obtain ⟨ka, hka⟩ := Option.ne_none_iff_exists'.mp ha
    obtain ⟨kb, hkb⟩ := Option.ne_none_iff_exists'.mp hb
    exact (higher_of_keys hkb hka).mpr (versionKey_lt_of_precedes hka hkb hprecedes)
  · intro configured requested hversions
    exact ⟨selectGeneration_conflict (hversions requested (by simp [generationCandidates])),
      selectGeneration_max hversions⟩
  · intro versions hcaught
    exact ⟨selectedCacheRoot_max hcaught, fun names names' hlist hsame =>
      selectedCacheRoot_relisted hcaught hlist hsame⟩

/-- A cache whose second entry has a manifest with an overlong integer. -/
def overlongCache : CacheVersions where
  path := "/cache"
  lstat := .ok ⟨true, false⟩
  resolve := .ok "/cache"
  iterdir := .ok ["1.0.0", "broken"]
  entry := fun name =>
    { path := "/cache/" ++ name
      lstat := .ok ⟨true, false⟩
      manifest := if name = "broken" then .error .value else .ok ⟨pluginName, name⟩
      resolve := .ok ("/cache/" ++ name) }

/-- Equal versions with different contents are refused, and a `ValueError` of an
    entry that does not qualify escapes although another entry does. -/
theorem selection_without_maximum :
    selectGeneration (some ⟨"1.0.0", "/cache/1.0.0", "aa", (1, 1)⟩)
        ⟨"1.0.0", "/cache/1.0.0", "bb", (1, 1)⟩ = failWith "installed_generation_conflict" ∧
      overlongCache.Qualified "1.0.0" ∧ ¬ overlongCache.Qualified "broken" ∧
      selectedCacheRoot overlongCache = .error .value := by
  refine ⟨by decide +kernel, ⟨by decide +kernel, ?_⟩, ?_, by decide +kernel⟩
  · exact ⟨toLex (1, toLex (0, toLex (0, toLex (toLex (1, []), [buildKey []])))), by decide +kernel⟩
  · rintro ⟨-, key, hkey⟩
    have herror : overlongCache.check "broken" = .error .value := by decide +kernel
    rw [herror] at hkey
    cases hkey

end CodexMustWork
