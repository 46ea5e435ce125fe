import CodexMustWork.HeaderPlaces
import CodexMustWork.InstalledGeneration
import CodexMustWork.JsonDocuments
import CodexMustWork.Library.Fallible
import CodexMustWork.Library.Splicing
import Mathlib.Data.List.Pairwise

/-!
# Removal from the configuration

`scripts/uninstall_config.py`: the tables of the plugin are cut out of the text of the
configuration, by the evidence of an installation, and what is left is parsed again.  The
loader of `tomllib` is a parameter.
-/

namespace CodexMustWork.ConfigRemoval

open TomlText TomlHeaders

/-! ### Identities and evidence -/

/-- `MARKETPLACE_NAME`. -/
def marketplaceName : String := "simdorei"

/-- `PLUGIN_ID`. -/
def pluginId : String := "codex-must-work@simdorei"

/-- `LEGACY_MARKETPLACE_NAME`. -/
def legacyMarketplaceName : String := "codex-must-work-local"

/-- `LEGACY_PLUGIN_ID`. -/
def legacyPluginId : String := "codex-must-work@codex-must-work-local"

/-- `_PREFIXES`. -/
def keyPrefixes : List String :=
  [pluginId ++ ":hooks/hooks.json:", legacyPluginId ++ ":hooks/hooks.json:"]

/-- `_OWNERSHIP_UNKNOWN`. -/
def ownershipUnknown : String := "uninstall_config_ownership_unknown"

/-- `_UNSUPPORTED`. -/
def unsupported : String := "codex_config_unsupported_syntax"

/-- `TrustedHookState`. -/
structure TrustedHookState where
  key : PyText
  trustedHash : PyText
deriving DecidableEq

/-- `ValidatedInstallEvidence`. -/
structure ValidatedInstallEvidence where
  marketplaceName : PyText
  pluginId : PyText
  sourceType : PyText
  source : PyText
  reference : Option PyText
  trustedHooks : List TrustedHookState
deriving DecidableEq

abbrev TomlPath := List PyText

/-! ### Reading -/

/-- `text.encode("utf-8")`. -/
def encode (text : Text) : List UInt8 := text.flatMap String.utf8EncodeChar

/-- `data.decode("utf-8")`, unless it raises `UnicodeDecodeError`. -/
def decode (data : List UInt8) : Option Text := data.toByteArray.utf8Decode?.map Array.toList

/-- `text.replace("\r\n", "")`. -/
def withoutCrlf : Text → Text
  | [] => []
  | '\r' :: '\n' :: rest => withoutCrlf rest
  | character :: rest => character :: withoutCrlf rest

/-- `"\r\n" in text`. -/
def hasCrlf : Text → Bool
  | [] => false
  | '\r' :: '\n' :: _ => true
  | _ :: rest => hasCrlf rest

/-- The lines end in different ways, or in a way that TOML does not know. -/
def mixedLines (text : Text) : Bool :=
  (withoutCrlf text).contains '\r' || hasCrlf text && (withoutCrlf text).contains '\n'

section Removal

variable (loads : Text → Option PyDict)

/-- `_parse`; `loads` is `tomllib.loads`. -/
def parse (postEdit : Bool) (data : List UInt8) : Except InstallPluginError (PyDict × Text) :=
  if [0xef, 0xbb, 0xbf].isPrefixOf data then failWith "codex_config_bom"
  else match decode data with
    | none => failWith "codex_config_malformed"
    | some text =>
        if mixedLines text then failWith unsupported
        else match loads text with
          | some tree => .ok (tree, text)
          | none =>
              failWith (if postEdit then "codex_config_post_edit_invalid"
                else "codex_config_malformed")

/-! ### Blocks -/

/-- `_Block`. -/
structure Block where
  header : Text
  start : ℕ
  bodyStart : ℕ
  stop : ℕ
  kind : HeaderKind
deriving DecidableEq

/-- Where the pattern of the tail is on a line: before a comment, in it, or after a carriage
    return. -/
inductive TailState where
  | blank
  | comment
  | returned

/-- `(?:^[ \t]*(?:#.*)?(?:\r?\n|$))*\Z` at the beginning of a line. -/
def isTail : TailState → Text → Bool
  | .blank, [] => true
  | .comment, [] => true
  | .returned, [] => false
  | .blank, character :: rest =>
      if character = '\n' then isTail .blank rest
      else if isBlank character then isTail .blank rest
      else if character = '#' then isTail .comment rest
      else if character = '\r' then isTail .returned rest
      else false
  | .comment, character :: rest => isTail (if character = '\n' then .blank else .comment) rest
  | .returned, character :: rest => character = '\n' && isTail .blank rest

/-- `tail.start()`: the first line from which the pattern matches, or the end.  The first
    argument says whether one is at the beginning of a line. -/
def tailStart : Bool → Text → ℕ
  | _, [] => 0
  | fresh, character :: rest =>
      if fresh && isTail .blank (character :: rest) then 0
      else tailStart (character = '\n') rest + 1

/-- `limit` of a header. -/
def limitOf (text : Text) : List TomlHeader → ℕ
  | [] => text.length
  | next :: _ => next.start

/-- The loop of `_blocks`. -/
def toBlocks (text : Text) : List TomlHeader → List Block
  | [] => []
  | header :: rest =>
      let body := slice text header.bodyStart (limitOf text rest)
      ⟨header.text, header.start, header.bodyStart, header.bodyStart + tailStart true body,
        header.kind⟩ :: toBlocks text rest

/-- `_blocks`. -/
def blocksOf (text : Text) : Except InstallPluginError (List Block) :=
  match scanTableHeaders (fun header => (loads header).isSome) text with
  | .error _ => failWith unsupported
  | .ok headers => .ok (toBlocks text headers)

/-! ### Targets -/

/-- `exact` of `_owned_path`. -/
def exactPaths : List (Text × TomlPath) :=
  [(("[marketplaces." ++ marketplaceName ++ "]").toList,
      [pyText "marketplaces", pyText marketplaceName]),
    (("[marketplaces." ++ legacyMarketplaceName ++ "]").toList,
      [pyText "marketplaces", pyText legacyMarketplaceName]),
    (("[plugins.\"" ++ pluginId ++ "\"]").toList, [pyText "plugins", pyText pluginId]),
    (("[plugins.\"" ++ legacyPluginId ++ "\"]").toList,
      [pyText "plugins", pyText legacyPluginId])]

/-- `re.fullmatch(r'\[hooks\.state\."([^"]+)"\]', header)` and its group. -/
def hookKey (header : Text) : Option Text :=
  let opening := "[hooks.state.\"".toList
  let rest := header.drop opening.length
  let key := rest.takeWhile (· != '"')
  if opening.isPrefixOf header ∧ key ≠ [] ∧ rest.drop key.length = "\"]".toList then some key
  else none

/-- `key.startswith(_PREFIXES)`. -/
def hasOwnPrefix (key : PyText) : Bool :=
  keyPrefixes.any fun start => (pyText start).isPrefixOf key

/-- `_owned_path`. -/
def ownedPath (block : Block) : Option TomlPath :=
  match block.kind with
  | .arrayTable => none
  | .table =>
      match exactPaths.lookup block.header with
      | some path => some path
      | none =>
          match hookKey block.header with
          | none => none
          | some key =>
              let key := key.map codePoint
              if hasOwnPrefix key then some [pyText "hooks", pyText "state", key] else none

/-- The value, if it is a table. -/
def asTable : Option PyValue → Option PyDict
  | some (.dict members) => some members
  | _ => none

/-- The names that a table has. -/
def namesIn (table : Option PyDict) (names : List String) : List String :=
  names.filter fun name => ((table.getD []).find name).isSome

/-- `_target_paths`. -/
def targetPaths (tree : PyDict) : List TomlPath :=
  let hooks := (asTable (tree.find "hooks")).getD []
  let state := (asTable (hooks.find "state")).getD []
  (namesIn (asTable (tree.find "marketplaces")) [marketplaceName, legacyMarketplaceName]).map
      (fun name => [pyText "marketplaces", pyText name]) ++
    (namesIn (asTable (tree.find "plugins")) [pluginId, legacyPluginId]).map
      (fun name => [pyText "plugins", pyText name]) ++
    ((state.map Prod.fst).filter hasOwnPrefix).map
      (fun key => [pyText "hooks", pyText "state", key])

/-- `has_uninstall_targets`. -/
def hasUninstallTargets (data : List UInt8) : Except InstallPluginError Bool :=
  if data = [] then .ok false
  else do
    let (tree, _) ← parse loads false data
    pure (targetPaths tree ≠ [])

/-- `_require_canonical_targets`. -/
def requireCanonicalTargets (tree : PyDict) (blocks : List Block) :
    Except InstallPluginError Unit :=
  let targets := targetPaths tree
  let canonical := blocks.filterMap ownedPath
  if canonical.Nodup ∧ (∀ path ∈ targets, path ∈ canonical) ∧ ∀ path ∈ canonical, path ∈ targets
  then .ok ()
  else failWith unsupported

/-! ### Ownership -/

/-- The tables on a path. -/
def tableAt (tree : PyDict) : TomlPath → Option PyDict
  | [] => some tree
  | key :: rest =>
      match tree.get key with
      | some (.dict members) => tableAt members rest
      | _ => none

/-- `path[:1] == (section,)`. -/
def isUnder (top : String) (path : TomlPath) : Bool := path.head? == some (pyText top)

/-- `_expected_marketplace`. -/
def expectedMarketplace (evidence : ValidatedInstallEvidence) : PyDict :=
  let expected : PyDict :=
    [(pyText "source_type", .str evidence.sourceType), (pyText "source", .str evidence.source)]
  match evidence.reference with
  | none => expected
  | some reference => expected.put "ref" (.str reference)

/-- The matches of `_evidence_for_path`. -/
def evidenceForPath (path : TomlPath) (evidence : List ValidatedInstallEvidence) :
    List ValidatedInstallEvidence :=
  if isUnder "marketplaces" path then
    evidence.filter fun item => item.marketplaceName = path.getD 1 []
  else if isUnder "plugins" path then evidence.filter fun item => item.pluginId = path.getD 1 []
  else evidence.filter fun item => item.trustedHooks.any fun hook => hook.key = path.getLastD []

/-- `set(current) == {"enabled"}`, and the value is a truth value. -/
def enabledOnly (current : PyDict) : Bool :=
  current.all (fun member => member.1 = pyText "enabled") &&
    match current.find "enabled" with
    | some (.bool _) => true
    | _ => false

/-- What the evidence says of a table. -/
def isProven (path : TomlPath) (current : PyDict) (candidates : List ValidatedInstallEvidence) :
    Bool :=
  if isUnder "marketplaces" path then
    candidates.any fun item => (PyValue.dict current).eq (.dict (expectedMarketplace item))
  else if isUnder "plugins" path then enabledOnly current
  else candidates.any fun item => item.trustedHooks.any fun hook =>
    hook.key = path.getLastD [] && (PyValue.dict current).eq
      (.dict [(pyText "enabled", .bool true), (pyText "trusted_hash", .str hook.trustedHash)])

/-- `_require_owned_table`. -/
def requireOwnedTable (tree : PyDict) (evidence : List ValidatedInstallEvidence)
    (path : TomlPath) : Except InstallPluginError Unit :=
  match tableAt tree path with
  | none => failWith ownershipUnknown
  | some current =>
      let candidates := evidenceForPath path evidence
      if candidates = [] then failWith ownershipUnknown
      else if isProven path current candidates then .ok ()
      else failWith ownershipUnknown

/-- `_marketplace_is_shared`. -/
def marketplaceIsShared (tree : PyDict) (marketplace : PyText) : Bool :=
  ((asTable (tree.find "plugins")).getD []).any fun plugin =>
    plugin.1 != pyText pluginId && plugin.1 != pyText legacyPluginId &&
      (pyText "@" ++ marketplace).isSuffixOf plugin.1

/-- The path is that of a marketplace which other plugins use. -/
def isSharedMarketplace (tree : PyDict) (path : TomlPath) : Bool :=
  isUnder "marketplaces" path && marketplaceIsShared tree (path.getD 1 [])

/-- `_require_targets_absent`. -/
def requireTargetsAbsent (tree : PyDict) : Except InstallPluginError Unit :=
  if (targetPaths tree).all (isSharedMarketplace tree) then .ok ()
  else failWith "codex_config_post_edit_invalid"

/-! ### The removal -/

/-- The loop of `render_config_removal` over the blocks. -/
def removals (tree : PyDict) (evidence : List ValidatedInstallEvidence) :
    List Block → Except InstallPluginError (List Block)
  | [] => .ok []
  | block :: rest =>
      match ownedPath block with
      | none => removals tree evidence rest
      | some path => do
          requireOwnedTable tree evidence path
          let more ← removals tree evidence rest
          pure (if isSharedMarketplace tree path then more else block :: more)

/-- `rendered[:start] + rendered[end:]`. -/
def Block.cut (block : Block) : Splicing.Edit Char := ⟨block.start, block.stop, []⟩

/-- What is rendered before it is parsed again. -/
def renderedText (evidence : List ValidatedInstallEvidence) (tree : PyDict) (text : Text) :
    Except InstallPluginError Text := do
  let blocks ← blocksOf loads text
  requireCanonicalTargets tree blocks
  let removed ← removals tree evidence blocks
  pure (Splicing.applyBack (removed.map Block.cut) text)

/-- `render_config_removal`. -/
def renderConfigRemoval (evidence : List ValidatedInstallEvidence) (data : List UInt8) :
    Except InstallPluginError (List UInt8) :=
  if data = [] then .ok data
  else do
    let (tree, text) ← parse loads false data
    let rendered ← renderedText loads evidence tree text
    let (parsed, _) ← parse loads true (encode rendered)
    requireTargetsAbsent parsed
    pure (encode rendered)

end Removal

/-! ### Bytes and texts -/

section Rendering

variable {loads : Text → Option PyDict} {evidence : List ValidatedInstallEvidence}
  {tree : PyDict} {text : Text} {data : List UInt8}

theorem decode_encode (text : Text) : decode (encode text) = some text := by
  unfold decode encode
  change Option.map Array.toList text.utf8Encode.utf8Decode? = some text
  rw [List.utf8Decode?_utf8Encode]
  rfl

theorem encode_of_decode (hdecode : decode data = some text) : encode text = data := by
  unfold decode at hdecode
  obtain ⟨characters, hcharacters, rfl⟩ := Option.map_eq_some_iff.mp hdecode
  have hsome : data.toByteArray.utf8Decode?.isSome := Option.isSome_of_eq_some hcharacters
  have hbytes := @ByteArray.utf8Encode_get_utf8Decode? data.toByteArray hsome
  rw [Option.get_of_eq_some hsome hcharacters] at hbytes
  exact List.toByteArray_inj.mp hbytes

theorem parse_eq_ok_iff {postEdit : Bool} :
    parse loads postEdit data = .ok (tree, text) ↔
      [0xef, 0xbb, 0xbf].isPrefixOf data = false ∧ decode data = some text ∧
        mixedLines text = false ∧ loads text = some tree := by
  unfold parse failWith
  rw [Fallible.refuse_eq_ok, Bool.not_eq_true]
  refine and_congr_right fun _ => ?_
  cases hdecode : decode data with
  | none => simp
  | some found =>
    simp only
    rw [Fallible.refuse_eq_ok, Bool.not_eq_true]
    cases hloads : loads found with
    | none =>
      constructor
      · rintro ⟨-, ⟨⟩⟩
      · rintro ⟨⟨⟩, -, hsome⟩
        rw [hloads] at hsome
        cases hsome
    | some values =>
      constructor
      · rintro ⟨hmixed, ⟨⟩⟩
        exact ⟨rfl, hmixed, hloads⟩
      · rintro ⟨⟨⟩, hmixed, hsome⟩
        rw [hloads] at hsome
        cases hsome
        exact ⟨hmixed, rfl⟩

/-- What is read back from a rendered text is that text. -/
theorem text_of_parse {postEdit : Bool} {rendered : Text}
    (hparse : parse loads postEdit (encode rendered) = .ok (tree, text)) : text = rendered := by
  have hdecode := (parse_eq_ok_iff.mp hparse).2.1
  rw [decode_encode] at hdecode
  exact (Option.some.inj hdecode).symm

/-! ### Blocks in order -/

theorem tailStart_le (fresh : Bool) (body : Text) : tailStart fresh body ≤ body.length := by
  induction body generalizing fresh with
  | nil => exact Nat.le_refl 0
  | cons character rest ih =>
    rw [tailStart]
    split_ifs
    · exact Nat.zero_le _
    · exact Nat.succ_le_succ (ih _)

/-- A block ends before the limit of its header. -/
theorem stop_le_limit {bodyStart limit : ℕ} (hle : bodyStart ≤ limit) :
    bodyStart + tailStart true (slice text bodyStart limit) ≤ limit := by
  have htail := tailStart_le true (slice text bodyStart limit)
  rw [slice, List.length_drop, List.length_take] at htail
  rw [slice]
  omega

/-- The tail of a body begins where a line does, or there is none. -/
theorem tailStart_line (fresh : Bool) (body : Text) :
    tailStart fresh body = 0 ∧ fresh = true ∨
      (∃ before, tailStart fresh body = before + 1 ∧ body[before]? = some '\n') ∨
        tailStart fresh body = body.length := by
  induction body generalizing fresh with
  | nil => exact Or.inr (Or.inr rfl)
  | cons character rest ih =>
    rw [tailStart]
    split_ifs with htail
    · exact Or.inl ⟨rfl, (Bool.and_eq_true_iff.mp htail).1⟩
    · refine Or.inr ?_
      rcases ih (decide (character = '\n')) with ⟨hzero, hnewline⟩ | ⟨before, hstart, hline⟩ | hend
      · rw [hzero]
        exact Or.inl ⟨0, rfl, congrArg some (of_decide_eq_true hnewline)⟩
      · exact Or.inl ⟨before + 1, congrArg Nat.succ hstart, hline⟩
      · exact Or.inr (congrArg Nat.succ hend)

/-- Between lines that begin at their places, a block ends at the end of a line. -/
theorem stop_line {bodyStart limit : ℕ} (hle : bodyStart ≤ limit) (hlimit : limit ≤ text.length)
    (hbody : LineStop text bodyStart) (hstop : LineStop text limit) :
    LineStop text (bodyStart + tailStart true (slice text bodyStart limit)) := by
  rcases tailStart_line true (slice text bodyStart limit) with
    ⟨hzero, -⟩ | ⟨before, hstart, hline⟩ | hend
  · rw [hzero]
    exact hbody
  · rw [hstart]
    refine Or.inl (Or.inr ⟨bodyStart + before, rfl, ?_⟩)
    rw [slice, List.getElem?_drop, List.getElem?_take] at hline
    split_ifs at hline
    exact hline
  · rw [hend, slice, List.length_drop, List.length_take, Nat.min_eq_left hlimit,
      Nat.add_sub_cancel' hle]
    exact hstop

theorem mem_toBlocks {headers : List TomlHeader} {block : Block}
    (hmem : block ∈ toBlocks text headers) :
    ∃ header ∈ headers, header.text = block.header ∧ header.start = block.start ∧
      header.bodyStart = block.bodyStart ∧ header.kind = block.kind := by
  induction headers with
  | nil => cases hmem
  | cons header rest ih =>
    rcases List.mem_cons.mp hmem with rfl | hrest
    · exact ⟨header, List.mem_cons_self, rfl, rfl, rfl, rfl⟩
    · obtain ⟨other, hother, hplaces⟩ := ih hrest
      exact ⟨other, List.mem_cons_of_mem _ hother, hplaces⟩

theorem toBlocks_ordered {headers : List TomlHeader}
    (hordered : headers.Pairwise fun first second => first.bodyStart ≤ second.start)
    (hproper : ∀ header ∈ headers,
      header.start ≤ header.bodyStart ∧ header.bodyStart ≤ text.length) :
    ((toBlocks text headers).Pairwise fun first second => first.stop ≤ second.start) ∧
      ∀ block ∈ toBlocks text headers,
        block.start ≤ block.bodyStart ∧ block.bodyStart ≤ block.stop ∧ block.stop ≤ text.length := by
  induction headers with
  | nil => exact ⟨List.Pairwise.nil, fun block hmem => absurd hmem List.not_mem_nil⟩
  | cons header rest ih =>
    obtain ⟨hnext, hrest⟩ := List.pairwise_cons.mp hordered
    obtain ⟨hstart, hbody⟩ := hproper header List.mem_cons_self
    have hothers : ∀ other ∈ rest,
        other.start ≤ other.bodyStart ∧ other.bodyStart ≤ text.length :=
      fun other hmem => hproper other (List.mem_cons_of_mem _ hmem)
    obtain ⟨hpairs, hbounds⟩ := ih hrest hothers
    have hlimit : header.bodyStart ≤ limitOf text rest ∧ limitOf text rest ≤ text.length := by
      cases rest with
      | nil => exact ⟨hbody, Nat.le_refl _⟩
      | cons next more =>
        obtain ⟨hle, hlength⟩ := hothers next List.mem_cons_self
        exact ⟨hnext next List.mem_cons_self, Nat.le_trans hle hlength⟩
    have hstop := @stop_le_limit text header.bodyStart (limitOf text rest) hlimit.1
    refine ⟨List.pairwise_cons.mpr ⟨?_, hpairs⟩, ?_⟩
    · intro block hmem
      obtain ⟨other, hother, -, hplace, -⟩ := mem_toBlocks hmem
      rw [← hplace]
      refine Nat.le_trans hstop ?_
      cases rest with
      | nil => cases hother
      | cons next more =>
        rcases List.mem_cons.mp hother with rfl | hmore
        · exact Nat.le_refl _
        · exact Nat.le_trans (hothers next List.mem_cons_self).1
            ((List.pairwise_cons.mp hrest).1 other hmore)
    · intro block hmem
      rcases List.mem_cons.mp hmem with rfl | hmore
      · exact ⟨hstart, Nat.le_add_right _ _, Nat.le_trans hstop hlimit.2⟩
      · exact hbounds block hmore

theorem toBlocks_lines {headers : List TomlHeader}
    (hordered : headers.Pairwise fun first second => first.bodyStart ≤ second.start)
    (hproper : ∀ header ∈ headers,
      header.start ≤ header.bodyStart ∧ header.bodyStart ≤ text.length)
    (hlines : ∀ header ∈ headers,
      LineStart text header.start ∧ LineStop text header.bodyStart) :
    ∀ block ∈ toBlocks text headers, LineStart text block.start ∧ LineStop text block.stop := by
  induction headers with
  | nil => exact fun block hmem => absurd hmem List.not_mem_nil
  | cons header rest ih =>
    obtain ⟨hnext, hrest⟩ := List.pairwise_cons.mp hordered
    obtain ⟨hstart, hbody⟩ := hlines header List.mem_cons_self
    intro block hmem
    rcases List.mem_cons.mp hmem with rfl | hmore
    · refine ⟨hstart, ?_⟩
      cases rest with
      | nil =>
        exact stop_line (hproper header List.mem_cons_self).2 (Nat.le_refl _) hbody (Or.inr rfl)
      | cons next more =>
        have hmem : next ∈ header :: next :: more := List.mem_cons_of_mem _ List.mem_cons_self
        obtain ⟨hle, hlength⟩ := hproper next hmem
        exact stop_line (hnext next List.mem_cons_self) (Nat.le_trans hle hlength) hbody
          (Or.inl (hlines next hmem).1)
    · exact ih hrest (fun other hother => hproper other (List.mem_cons_of_mem _ hother))
        (fun other hother => hlines other (List.mem_cons_of_mem _ hother)) block hmore

/-! ### What is removed -/

/-- The block is a table of the plugin by the evidence, and no marketplace that others use. -/
def Goes (evidence : List ValidatedInstallEvidence) (tree : PyDict) (block : Block) : Prop :=
  ∃ path, ownedPath block = some path ∧ requireOwnedTable tree evidence path = .ok () ∧
    isSharedMarketplace tree path = false

theorem removals_ok {blocks cut : List Block} (hcut : removals tree evidence blocks = .ok cut) :
    cut.Sublist blocks ∧ (∀ block ∈ cut, Goes evidence tree block) ∧
      ∀ block ∈ blocks, Goes evidence tree block → block ∈ cut := by
  induction blocks generalizing cut with
  | nil =>
    cases hcut
    exact ⟨List.Sublist.refl [], fun block hmem => absurd hmem List.not_mem_nil,
      fun block hmem => absurd hmem List.not_mem_nil⟩
  | cons block rest ih =>
    rw [removals] at hcut
    cases hpath : ownedPath block with
    | none =>
      rw [hpath] at hcut
      obtain ⟨hsublist, hgoes, hall⟩ := ih hcut
      refine ⟨hsublist.cons block, hgoes, ?_⟩
      intro other hmem hother
      rcases List.mem_cons.mp hmem with rfl | hrest
      · obtain ⟨path, hfound, -⟩ := hother
        rw [hpath] at hfound
        cases hfound
      · exact hall other hrest hother
    | some path =>
      rw [hpath] at hcut
      obtain ⟨⟨⟩, howned, hcut⟩ := Fallible.bind_eq_ok.mp hcut
      obtain ⟨more, hmore, hcut⟩ := Fallible.bind_eq_ok.mp hcut
      obtain ⟨hsublist, hgoes, hall⟩ := ih hmore
      by_cases hshared : isSharedMarketplace tree path = true
      · rw [if_pos hshared] at hcut
        cases hcut
        refine ⟨hsublist.cons block, hgoes, ?_⟩
        intro other hmem hother
        rcases List.mem_cons.mp hmem with rfl | hrest
        · obtain ⟨found, hfound, -, hkept⟩ := hother
          rw [hpath] at hfound
          cases hfound
          rw [hshared] at hkept
          cases hkept
        · exact hall other hrest hother
      · rw [if_neg hshared] at hcut
        cases hcut
        refine ⟨hsublist.cons_cons block, ?_, ?_⟩
        · intro other hmem
          rcases List.mem_cons.mp hmem with rfl | hrest
          · exact ⟨path, hpath, howned, eq_false_of_ne_true hshared⟩
          · exact hgoes other hrest
        · intro other hmem hother
          rcases List.mem_cons.mp hmem with rfl | hrest
          · exact List.mem_cons_self
          · exact List.mem_cons_of_mem _ (hall other hrest hother)

end Rendering

/-! ### The removal as a whole -/

section Whole

variable {loads : Text → Option PyDict} {evidence : List ValidatedInstallEvidence}
  {tree : PyDict} {text : Text} {data result : List UInt8}

theorem requireTargetsAbsent_ok (hleft : requireTargetsAbsent tree = .ok ()) :
    ∀ path ∈ targetPaths tree, isSharedMarketplace tree path = true := by
  unfold requireTargetsAbsent failWith at hleft
  exact List.all_eq_true.mp (Fallible.require_eq_ok.mp hleft).1

theorem requireCanonicalTargets_ok {blocks : List Block}
    (hcanonical : requireCanonicalTargets tree blocks = .ok ()) {block : Block}
    (hmem : block ∈ blocks) {path : TomlPath} (hpath : ownedPath block = some path) :
    path ∈ targetPaths tree := by
  unfold requireCanonicalTargets failWith at hcanonical
  obtain ⟨-, -, htargets⟩ := (Fallible.require_eq_ok.mp hcanonical).1
  exact htargets path (List.mem_filterMap.mpr ⟨block, hmem, hpath⟩)

theorem blocksOf_ok {blocks : List Block} (hblocks : blocksOf loads text = .ok blocks) :
    ∃ headers, scanTableHeaders (fun header => (loads header).isSome) text = .ok headers ∧
      blocks = toBlocks text headers := by
  unfold blocksOf at hblocks
  cases hscan : scanTableHeaders (fun header => (loads header).isSome) text with
  | error failure =>
    rw [hscan] at hblocks
    cases hblocks
  | ok headers =>
    rw [hscan] at hblocks
    cases hblocks
    exact ⟨headers, rfl, rfl⟩

theorem renderedText_ok {rendered : Text}
    (hrendered : renderedText loads evidence tree text = .ok rendered) :
    ∃ headers cut, scanTableHeaders (fun header => (loads header).isSome) text = .ok headers ∧
      requireCanonicalTargets tree (toBlocks text headers) = .ok () ∧
      removals tree evidence (toBlocks text headers) = .ok cut ∧
      rendered = Splicing.applyBack (cut.map Block.cut) text := by
  unfold renderedText at hrendered
  obtain ⟨blocks, hblocks, hchecked⟩ := Fallible.bind_eq_ok.mp hrendered
  obtain ⟨⟨⟩, hcanonical, hremoved⟩ := Fallible.bind_eq_ok.mp hchecked
  obtain ⟨cut, hcut, hresult⟩ := Fallible.bind_eq_ok.mp hremoved
  obtain ⟨headers, hscan, rfl⟩ := blocksOf_ok hblocks
  exact ⟨headers, cut, hscan, hcanonical, hcut, (Except.ok.inj hresult).symm⟩

/-- What a removal that returns has gone through. -/
theorem renderConfigRemoval_ok (hdata : data ≠ [])
    (hrender : renderConfigRemoval loads evidence data = .ok result) :
    ∃ tree text rendered parsed, parse loads false data = .ok (tree, text) ∧
      renderedText loads evidence tree text = .ok rendered ∧
      parse loads true (encode rendered) = .ok (parsed, rendered) ∧
      requireTargetsAbsent parsed = .ok () ∧ result = encode rendered := by
  unfold renderConfigRemoval at hrender
  rw [if_neg hdata] at hrender
  obtain ⟨⟨tree, text⟩, hparse, hedit⟩ := Fallible.bind_eq_ok.mp hrender
  obtain ⟨rendered, hrendered, hcheck⟩ := Fallible.bind_eq_ok.mp hedit
  obtain ⟨⟨parsed, again⟩, hagain, hleft⟩ := Fallible.bind_eq_ok.mp hcheck
  obtain ⟨⟨⟩, habsent, hresult⟩ := Fallible.bind_eq_ok.mp hleft
  have hsame : again = rendered := text_of_parse hagain
  rw [hsame] at hagain
  exact ⟨tree, text, rendered, parsed, hparse, hrendered, hagain, habsent,
    (Except.ok.inj hresult).symm⟩

/-- Two blocks do not overlap. -/
def Block.Apart (first second : Block) : Prop :=
  first.stop ≤ second.start ∨ second.stop ≤ first.start

instance : Std.Symm Block.Apart := ⟨fun _ _ => Or.symm⟩

/-- The bytes are those of the configuration with some blocks cut out, and with nothing else
    changed: of the tables in the text, those go which the evidence proves to be of the plugin
    and which are no marketplace that others use, each cut is of whole lines, and none reaches
    into another block. -/
def ExactRemoval (loads : Text → Option PyDict) (evidence : List ValidatedInstallEvidence)
    (data result : List UInt8) : Prop :=
  data = [] ∧ result = [] ∨
    ∃ (tree : PyDict) (text : Text) (headers : List TomlHeader) (cut : List Block),
      data = encode text ∧ loads text = some tree ∧
      scanTableHeaders (fun header => (loads header).isSome) text = .ok headers ∧
      cut.Sublist (toBlocks text headers) ∧
      (∀ block ∈ toBlocks text headers, block ∈ cut ↔ Goes evidence tree block) ∧
      result = encode (Splicing.spliced text 0 (cut.map Block.cut)) ∧
      (∀ gone ∈ cut, LineStart text gone.start ∧ LineStop text gone.stop) ∧
      ∀ block ∈ toBlocks text headers, block ∉ cut → ∀ gone ∈ cut, block.Apart gone

/-- The blocks of one text do not overlap. -/
theorem blocks_apart {headers : List TomlHeader}
    (hscan : scanTableHeaders (fun header => (loads header).isSome) text = .ok headers)
    {block other : Block} (hblock : block ∈ toBlocks text headers)
    (hother : other ∈ toBlocks text headers) (hne : block ≠ other) :
    block.Apart other := by
  obtain ⟨hordered, hproper⟩ := scan_ordered hscan
  obtain ⟨hpairs, -⟩ := toBlocks_ordered hordered hproper
  have hapart : (toBlocks text headers).Pairwise Block.Apart := hpairs.imp Or.inl
  exact hapart.forall hblock hother hne

/-- The cuts are made in the order of the text. -/
theorem cuts_ordered {headers : List TomlHeader} {cut : List Block}
    (hscan : scanTableHeaders (fun header => (loads header).isSome) text = .ok headers)
    (hcut : cut.Sublist (toBlocks text headers)) :
    Splicing.Ordered text.length (cut.map Block.cut) := by
  obtain ⟨hordered, hproper⟩ := scan_ordered hscan
  obtain ⟨hpairs, hbounds⟩ := toBlocks_ordered hordered hproper
  refine Splicing.Ordered.sublist ?_ (hcut.map Block.cut)
  refine ⟨List.pairwise_map.mpr hpairs, ?_⟩
  intro edit hmem
  obtain ⟨block, hblock, rfl⟩ := List.mem_map.mp hmem
  obtain ⟨hstart, hbody, hstop⟩ := hbounds block hblock
  exact ⟨Nat.le_trans hstart hbody, hstop⟩

/-- **Exact removal.**  Where a removal returns, it has cut out what is to go and nothing else. -/
theorem render_config_removal_exact
    (hrender : renderConfigRemoval loads evidence data = .ok result) :
    ExactRemoval loads evidence data result := by
  by_cases hdata : data = []
  · unfold renderConfigRemoval at hrender
    rw [if_pos hdata] at hrender
    exact Or.inl ⟨hdata, hdata ▸ (Except.ok.inj hrender).symm⟩
  obtain ⟨tree, text, rendered, parsed, hparse, hrendered, -, -, rfl⟩ :=
    renderConfigRemoval_ok hdata hrender
  obtain ⟨headers, cut, hscan, -, hcut, rfl⟩ := renderedText_ok hrendered
  obtain ⟨-, hdecode, -, hloads⟩ := parse_eq_ok_iff.mp hparse
  obtain ⟨hsublist, hgoes, hall⟩ := removals_ok hcut
  refine Or.inr ⟨tree, text, headers, cut, (encode_of_decode hdecode).symm, hloads, hscan,
    hsublist, fun block hmem => ⟨hgoes block, hall block hmem⟩, ?_, ?_, ?_⟩
  · rw [Splicing.applyBack_ordered (cuts_ordered hscan hsublist)]
  · obtain ⟨hordered, hproper⟩ := scan_ordered hscan
    have hlines := toBlocks_lines hordered hproper (scan_lines hscan)
    exact fun gone hgone => hlines gone (hsublist.subset hgone)
  · intro block hmem hkept gone hgone
    refine blocks_apart hscan hmem (hsublist.subset hgone) ?_
    rintro rfl
    exact hkept hgone

/-- All the targets that a removal leaves are marketplaces that other plugins use. -/
theorem hasUninstallTargets_left (hrender : renderConfigRemoval loads evidence data = .ok result)
    (hresult : result ≠ []) :
    ∃ tree text, parse loads false result = .ok (tree, text) ∧
      hasUninstallTargets loads result = .ok (decide (targetPaths tree ≠ [])) ∧
      ∀ path ∈ targetPaths tree, isSharedMarketplace tree path = true := by
  have hdata : data ≠ [] := by
    rintro rfl
    exact hresult (Except.ok.inj hrender).symm
  obtain ⟨-, -, rendered, parsed, -, -, hparsed, habsent, rfl⟩ :=
    renderConfigRemoval_ok hdata hrender
  have hparse : parse loads false (encode rendered) = .ok (parsed, rendered) :=
    parse_eq_ok_iff.mpr (parse_eq_ok_iff.mp hparsed)
  refine ⟨parsed, rendered, hparse, ?_, requireTargetsAbsent_ok habsent⟩
  unfold hasUninstallTargets
  rw [if_neg hresult, hparse]
  rfl

/-- **A second removal.**  What one removal has left, another leaves as it is, whatever the
    evidence: all that can be left are marketplaces that other plugins use. -/
theorem render_config_removal_again {other : List ValidatedInstallEvidence}
    {twice : List UInt8} (hrender : renderConfigRemoval loads evidence data = .ok result)
    (hagain : renderConfigRemoval loads other result = .ok twice) : twice = result := by
  by_cases hresult : result = []
  · unfold renderConfigRemoval at hagain
    rw [if_pos hresult] at hagain
    exact (Except.ok.inj hagain).symm
  obtain ⟨tree, text, hparse, -, hshared⟩ := hasUninstallTargets_left hrender hresult
  obtain ⟨found, source, rendered, -, hfound, hrendered, -, -, rfl⟩ :=
    renderConfigRemoval_ok hresult hagain
  rw [hparse] at hfound
  cases hfound
  obtain ⟨headers, cut, -, hcanonical, hcut, rfl⟩ := renderedText_ok hrendered
  obtain ⟨hsublist, hgoes, -⟩ := removals_ok hcut
  have hnone : cut = [] := by
    refine List.eq_nil_iff_forall_not_mem.mpr fun block hmem => ?_
    obtain ⟨path, hpath, -, hkept⟩ := hgoes block hmem
    have htarget := requireCanonicalTargets_ok hcanonical (hsublist.subset hmem) hpath
    rw [hshared path htarget] at hkept
    cases hkept
  rw [hnone]
  exact encode_of_decode (parse_eq_ok_iff.mp hparse).2.1

end Whole

/-! ### A sample -/

/-- A configuration with the plugin and a table of another owner. -/
def sampleText : Text :=
  ("[plugins.\"codex-must-work@simdorei\"]\nenabled = true\n[other]\n").toList

def sampleTable : PyDict :=
  [(pyText "plugins", .dict [(pyText pluginId, .dict [(pyText "enabled", .bool true)])]),
    (pyText "other", .dict [])]

/-- `tomllib.loads` on the texts it is called with here. -/
def sampleLoads (text : Text) : Option PyDict :=
  if text = sampleText then some sampleTable
  else if text = "[other]\n".toList ∨ text = "[other]".toList then some [(pyText "other", .dict [])]
  else if text = "[plugins.\"codex-must-work@simdorei\"]".toList then
    some [(pyText "plugins", .dict [(pyText pluginId, .dict [])])]
  else none

def sampleEvidence : List ValidatedInstallEvidence :=
  [⟨pyText marketplaceName, pyText pluginId, pyText "git", pyText "source", none, []⟩]

theorem sample_parse : parse sampleLoads false (encode sampleText) =
    .ok (sampleTable, sampleText) :=
  parse_eq_ok_iff.mpr ⟨by decide +kernel, decode_encode _, by decide +kernel, if_pos rfl⟩

theorem sample_rendered :
    renderedText sampleLoads sampleEvidence sampleTable sampleText = .ok "[other]\n".toList := by
  decide +kernel

theorem sample_again : parse sampleLoads true (encode "[other]\n".toList) =
    .ok ([(pyText "other", .dict [])], "[other]\n".toList) :=
  parse_eq_ok_iff.mpr ⟨by decide +kernel, decode_encode _, by decide +kernel, by rfl⟩

/-- The rest of a removal from the sample. -/
theorem sample_removal_of {evidence : List ValidatedInstallEvidence}
    (hrendered : renderedText sampleLoads evidence sampleTable sampleText =
      .ok "[other]\n".toList) :
    renderConfigRemoval sampleLoads evidence (encode sampleText) =
      .ok (encode "[other]\n".toList) := by
  have hdata : encode sampleText ≠ [] := by decide +kernel
  have habsent : requireTargetsAbsent [(pyText "other", PyValue.dict [])] = .ok () := by
    decide +kernel
  unfold renderConfigRemoval
  rw [if_neg hdata, sample_parse]
  simp only [bind, Except.bind, hrendered, sample_again, habsent]
  rfl

theorem sample_removal : renderConfigRemoval sampleLoads sampleEvidence (encode sampleText) =
    .ok (encode "[other]\n".toList) :=
  sample_removal_of sample_rendered

theorem render_config_removal_exact_sample :
    ExactRemoval sampleLoads sampleEvidence (encode sampleText) (encode "[other]\n".toList) :=
  render_config_removal_exact sample_removal

theorem sample_second : renderConfigRemoval sampleLoads [] (encode "[other]\n".toList) =
    .ok (encode "[other]\n".toList) := by
  have hdata : encode "[other]\n".toList ≠ [] := by decide +kernel
  have hparse : parse sampleLoads false (encode "[other]\n".toList) =
      .ok ([(pyText "other", .dict [])], "[other]\n".toList) :=
    parse_eq_ok_iff.mpr (parse_eq_ok_iff.mp sample_again)
  have hrendered : renderedText sampleLoads [] [(pyText "other", PyValue.dict [])]
      "[other]\n".toList = .ok "[other]\n".toList := by
    decide +kernel
  have habsent : requireTargetsAbsent [(pyText "other", PyValue.dict [])] = .ok () := by
    decide +kernel
  unfold renderConfigRemoval
  rw [if_neg hdata, hparse]
  simp only [bind, Except.bind, hrendered, sample_again, habsent]
  rfl

theorem render_config_removal_again_sample :
    renderConfigRemoval sampleLoads sampleEvidence (encode sampleText) =
        .ok (encode "[other]\n".toList) ∧
      renderConfigRemoval sampleLoads [] (encode "[other]\n".toList) =
        .ok (encode "[other]\n".toList) ∧
      encode "[other]\n".toList = encode "[other]\n".toList :=
  ⟨sample_removal, sample_second, render_config_removal_again sample_removal sample_second⟩

end CodexMustWork.ConfigRemoval
