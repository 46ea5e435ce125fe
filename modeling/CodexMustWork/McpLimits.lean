import CodexMustWork.Library.Traversal
import CodexMustWork.McpAnswers

/-!
# The limits of a line

What one line of the client is when `decode_request` admits it, and which lines make it
raise something else than a protocol failure.

The limits are enforced at four places: on the raw line, on each object and each
integer while they are read, and on the decoded tree.  Together they bound every value
in the text, wherever it stands.
-/

namespace CodexMustWork

/-! ### Values in a text -/

/-- The value at a path of a syntax tree. -/
inductive RawJson.At : RawJson → List PathStep → RawJson → Prop
  | root (json : RawJson) : At json [] json
  | member {members : List (Option String × RawJson)} {key : String} {child value : RawJson}
      {path : List PathStep} (hmember : (some key, child) ∈ members) (hvalue : At child path value) :
      At (.object members) (.member key :: path) value
  | item {items : List RawJson} {index : ℕ} {child value : RawJson} {path : List PathStep}
      (hitem : items[index]? = some child) (hvalue : At child path value) :
      At (.list items) (.item index :: path) value

/-- What a value is bounded by where it stands, in a text that may hold an overlong
    identity or not. -/
def RawJson.Bounded (overlong : Prop) (path : List PathStep) : RawJson → Prop
  | .constant => False
  | .float number => number.isSome = true
  | .integer number => (Nat.toDigits 10 number.natAbs).length ≤ maxIntegerDigits
  | .text content => ∃ text, content = some text ∧ (text.utf8ByteSize ≤ maxStringBytes ∨
      overlong ∧ path = [.member "params", .member "arguments", .member "session_id"])
  | .list items => items.length ≤ maxArrayItems
  | .object members => members.length ≤ maxObjectMembers ∧ (members.map Prod.fst).Nodup ∧
      ∀ key ∈ members.map Prod.fst, ∃ name, key = some name ∧ name.utf8ByteSize ≤ maxStringBytes
  | _ => True

/-- The text is a call of a tool. -/
def RawJson.CallsTool (json : RawJson) : Prop :=
  json.At [.member "method"] (.text (some "tools/call"))

/-- One object whose values are all bounded and none of which is nested too deep. -/
def RawJson.WithinLimits (json : RawJson) : Prop :=
  (∃ members, json = .object members) ∧ ∀ path value, json.At path value →
    path.length < maxNestingDepth ∧ value.Bounded json.CallsTool path

/-! ### The hooks -/

theorem hookedItems_eq_ok {items : List RawJson} {values : List Json}
    (hhooked : hookedItems items = .ok values) :
    items.length = values.length ∧ ∀ (index : ℕ) (item : RawJson), items[index]? = some item →
      ∃ value, values[index]? = some value ∧ item.hooked = .ok value := by
  induction items generalizing values with
  | nil =>
    rw [hookedItems] at hhooked
    cases hhooked
    exact ⟨rfl, fun index item hitem => by simp at hitem⟩
  | cons first rest ih =>
    rw [hookedItems] at hhooked
    cases hfirst : first.hooked with
    | error error =>
      rw [hfirst] at hhooked
      cases hhooked
    | ok value =>
      rw [hfirst] at hhooked
      cases hrest : hookedItems rest with
      | error error =>
        rw [hrest] at hhooked
        cases hhooked
      | ok others =>
        rw [hrest] at hhooked
        cases hhooked
        obtain ⟨hlength, hothers⟩ := ih hrest
        refine ⟨by rw [List.length_cons, List.length_cons, hlength], fun index item hitem => ?_⟩
        cases index with
        | zero =>
          cases hitem
          exact ⟨value, rfl, hfirst⟩
        | succ index => exact hothers index item hitem

/-- The members of an object are hooked one by one, under their keys. -/
theorem hookedMembers_eq_ok {members : List (Option String × RawJson)}
    {pairs : List (Option String × Json)} (hhooked : hookedMembers members = .ok pairs) :
    List.Forall₂ (fun member pair => member.1 = pair.1 ∧ member.2.hooked = .ok pair.2)
      members pairs := by
  induction members generalizing pairs with
  | nil =>
    rw [hookedMembers] at hhooked
    cases hhooked
    exact List.Forall₂.nil
  | cons first rest ih =>
    obtain ⟨key, item⟩ := first
    rw [hookedMembers] at hhooked
    cases hitem : item.hooked with
    | error error =>
      rw [hitem] at hhooked
      cases hhooked
    | ok value =>
      rw [hitem] at hhooked
      cases hrest : hookedMembers rest with
      | error error =>
        rw [hrest] at hhooked
        cases hhooked
      | ok others =>
        rw [hrest] at hhooked
        cases hhooked
        exact List.Forall₂.cons ⟨rfl, hitem⟩ (ih hrest)

theorem getMember_isSome {values : JsonObject} {key : String} :
    (getMember values key).isSome = true ↔ key ∈ values.map Prod.fst := by
  unfold getMember
  induction values with
  | nil => simp
  | cons first rest ih =>
    obtain ⟨name, value⟩ := first
    rw [List.lookup_cons]
    by_cases hsame : key = name
    · subst hsame
      simp
    · have hbeq : (key == name) = false := beq_eq_false_iff_ne.mpr hsame
      rw [hbeq]
      simp only [List.map_cons, List.mem_cons, hsame, false_or]
      exact ih

/-- The members that are collected are those that were read, under distinct names. -/
theorem collectMembers_eq_ok {pairs : List (Option String × Json)} {before values : JsonObject}
    (hcollect : collectMembers before pairs = .ok values) :
    ∃ added : JsonObject, values = before ++ added ∧
      pairs = added.map (fun member => (some member.1, member.2)) ∧
      ((before.map Prod.fst).Nodup → (values.map Prod.fst).Nodup) ∧
      ∀ member ∈ added, member.1.utf8ByteSize ≤ maxStringBytes := by
  induction pairs generalizing before with
  | nil =>
    rw [collectMembers] at hcollect
    cases hcollect
    exact ⟨[], (List.append_nil _).symm, rfl, id, fun member hmember =>
      (List.not_mem_nil hmember).elim⟩
  | cons first rest ih =>
    obtain ⟨key, value⟩ := first
    cases key with
    | none => cases hcollect
    | some key =>
      rw [collectMembers] at hcollect
      split_ifs at hcollect with hlong hrepeated
      obtain ⟨added, hvalues, hpairs, hnodup, hbounded⟩ := ih hcollect
      refine ⟨(key, value) :: added, ?_, by rw [hpairs]; rfl, fun hbefore => hnodup ?_, ?_⟩
      · rw [hvalues, List.append_assoc]
        rfl
      · rw [getMember_isSome] at hrepeated
        rw [List.map_append, List.nodup_append]
        refine ⟨hbefore, List.nodup_singleton _, ?_⟩
        rintro name hname other hother rfl
        rw [List.map_cons, List.map_nil, List.mem_singleton] at hother
        subst hother
        exact hrepeated hname
      · intro member hmember
        rcases List.mem_cons.mp hmember with rfl | hmember
        · exact Nat.le_of_not_lt hlong
        · exact hbounded member hmember

/-- An object that is hooked: its members were bounded, and the decoded ones are theirs. -/
theorem hooked_object {members : List (Option String × RawJson)} {json : Json}
    (hhooked : (RawJson.object members).hooked = .ok json) :
    ∃ values, json = .object values ∧
      (∀ overlong path, (RawJson.object members).Bounded overlong path) ∧
      List.Forall₂ (fun member value => member.1 = some value.1 ∧ member.2.hooked = .ok value.2)
        members values := by
  rw [RawJson.hooked] at hhooked
  cases hpairs : hookedMembers members with
  | error error =>
    rw [hpairs] at hhooked
    cases hhooked
  | ok pairs =>
    rw [hpairs] at hhooked
    simp only [objectPairs] at hhooked
    split_ifs at hhooked with hmany
    cases hcollect : collectMembers [] pairs with
    | error error =>
      rw [hcollect] at hhooked
      cases hhooked
    | ok values =>
      rw [hcollect] at hhooked
      cases hhooked
      have hmembers := hookedMembers_eq_ok hpairs
      obtain ⟨added, hadded, hsame, hnodup, hbounded⟩ := collectMembers_eq_ok hcollect
      rw [List.nil_append] at hadded
      subst hadded
      rw [hsame, List.forall₂_map_right_iff] at hmembers
      have hnames : members.map Prod.fst = (values.map Prod.fst).map some := by
        rw [← List.forall₂_eq_eq_eq, List.forall₂_map_left_iff, List.forall₂_map_right_iff,
          List.forall₂_map_right_iff]
        exact hmembers.imp fun member value hpair => hpair.1
      refine ⟨values, rfl, fun overlong path => ⟨?_, ?_, ?_⟩, hmembers⟩
      · have hlength := hmembers.length_eq
        rw [hsame, List.length_map] at hmany
        omega
      · rw [hnames]
        exact (hnodup List.nodup_nil).map (Option.some_injective _)
      · intro key hkey
        rw [hnames] at hkey
        obtain ⟨name, hname, rfl⟩ := List.mem_map.mp hkey
        obtain ⟨member, hmember, rfl⟩ := List.mem_map.mp hname
        exact ⟨member.1, rfl, hbounded member hmember⟩

/-- A member of a decoded object was read under its name. -/
theorem hooked_member {members : List (Option String × RawJson)} {values : JsonObject}
    {key : String} {value : Json}
    (hhooked : (RawJson.object members).hooked = .ok (.object values))
    (hget : getMember values key = some value) :
    ∃ child, (some key, child) ∈ members ∧ child.hooked = .ok value := by
  obtain ⟨found, hfound, -, hmembers⟩ := hooked_object hhooked
  cases hfound
  obtain ⟨before, after, hsplit, -⟩ := List.lookup_eq_some_iff.mp hget
  have hmem : (key, value) ∈ values := by
    rw [hsplit]
    exact List.mem_append_right _ List.mem_cons_self
  obtain ⟨⟨name, child⟩, hchild, hname, hvalue⟩ := Traversal.exists_item hmembers hmem
  cases hname
  exact ⟨child, hchild, hvalue⟩

/-- Only a text is hooked to a text. -/
theorem text_of_hooked {raw : RawJson} {content : Option String}
    (hhooked : raw.hooked = .ok (.text content)) : raw = .text content := by
  cases raw with
  | text found =>
    cases hhooked
    rfl
  | integer number =>
    simp only [RawJson.hooked, parseInteger] at hhooked
    split_ifs at hhooked
    cases Except.ok.inj hhooked
  | list items =>
    rw [RawJson.hooked] at hhooked
    cases hvalues : hookedItems items <;> rw [hvalues] at hhooked <;> cases hhooked
  | object members =>
    obtain ⟨values, hvalues, -⟩ := hooked_object hhooked
    cases hvalues
  | _ => cases hhooked

/-! ### The tree -/

variable {overlong : Bool} {depth : ℕ} {base path : List PathStep}

theorem membersAreValid_mem {members : List (String × Json)} {key : String} {value : Json}
    (hvalid : membersAreValid overlong depth base members = true) (hmem : (key, value) ∈ members) :
    structureIsValid overlong depth (base ++ [.member key]) value = true := by
  induction members with
  | nil => cases hmem
  | cons first rest ih =>
    rw [membersAreValid, Bool.and_eq_true] at hvalid
    rcases List.mem_cons.mp hmem with rfl | hmem
    · exact hvalid.1
    · exact ih hvalid.2 hmem

theorem itemsAreValid_get {items : List Json} {start index : ℕ} {value : Json}
    (hvalid : itemsAreValid overlong depth base start items = true)
    (hget : items[index]? = some value) :
    structureIsValid overlong depth (base ++ [.item (start + index)]) value = true := by
  induction items generalizing start index with
  | nil => simp at hget
  | cons first rest ih =>
    rw [itemsAreValid, Bool.and_eq_true] at hvalid
    cases index with
    | zero =>
      cases hget
      exact hvalid.1
    | succ index =>
      have hrest := ih hvalid.2 hget
      rwa [Nat.add_assoc, Nat.add_comm 1] at hrest

/-- A value of an admitted text is admitted at its depth and its path. -/
theorem structureIsValid_at {raw value : RawJson} {json : Json} (hat : raw.At path value)
    (hhooked : raw.hooked = .ok json) (hvalid : structureIsValid overlong depth base json = true) :
    ∃ decoded, value.hooked = .ok decoded ∧
      structureIsValid overlong (depth + path.length) (base ++ path) decoded = true := by
  induction hat generalizing json depth base with
  | root raw =>
    rw [List.append_nil, List.length_nil, Nat.add_zero]
    exact ⟨json, hhooked, hvalid⟩
  | @member members key child value path hmember _ ih =>
    obtain ⟨values, rfl, -, hmembers⟩ := hooked_object hhooked
    obtain ⟨⟨name, decoded⟩, hdecoded, hname, hchild⟩ := Traversal.exists_result hmembers hmember
    cases hname
    rw [structureIsValid, Bool.and_eq_true] at hvalid
    have hinner := ih hchild (membersAreValid_mem hvalid.2 hdecoded)
    rwa [Nat.add_assoc, Nat.add_comm 1, List.append_assoc] at hinner
  | @item items index child value path hitem _ ih =>
    rw [RawJson.hooked] at hhooked
    cases hvalues : hookedItems items with
    | error error =>
      rw [hvalues] at hhooked
      cases hhooked
    | ok values =>
      rw [hvalues] at hhooked
      cases hhooked
      obtain ⟨decoded, hdecoded, hchild⟩ := (hookedItems_eq_ok hvalues).2 index child hitem
      rw [structureIsValid, Bool.and_eq_true, Bool.and_eq_true] at hvalid
      have hinner := ih hchild (itemsAreValid_get hvalid.2 hdecoded)
      rwa [Nat.zero_add, Nat.add_assoc, Nat.add_comm 1, List.append_assoc] at hinner

theorem structureIsValid_depth {json : Json}
    (hvalid : structureIsValid overlong depth base json = true) : depth ≤ maxNestingDepth := by
  cases json <;> simp only [structureIsValid, Bool.and_eq_true, decide_eq_true_eq] at hvalid
  all_goals first | exact hvalid | exact hvalid.1 | exact hvalid.1.1

/-- What is admitted is bounded. -/
theorem bounded_of_valid {raw : RawJson} {json : Json} (hhooked : raw.hooked = .ok json)
    (hvalid : structureIsValid overlong depth base json = true) : raw.Bounded (overlong = true) base := by
  cases raw with
  | null => trivial
  | bool flag => trivial
  | constant => cases hhooked
  | integer number =>
    simp only [RawJson.hooked, parseInteger] at hhooked
    split_ifs at hhooked with hlong
    exact Nat.le_of_not_lt hlong
  | float number =>
    cases hhooked
    rw [structureIsValid, Bool.and_eq_true] at hvalid
    exact hvalid.2
  | text content =>
    cases hhooked
    rw [structureIsValid, Bool.and_eq_true] at hvalid
    cases content with
    | none => cases hvalid.2
    | some text =>
      have hstring := hvalid.2
      simp only [stringIsValid, Bool.or_eq_true, Bool.and_eq_true, decide_eq_true_eq] at hstring
      exact ⟨text, rfl, hstring⟩
  | list items =>
    rw [RawJson.hooked] at hhooked
    cases hvalues : hookedItems items with
    | error error =>
      rw [hvalues] at hhooked
      cases hhooked
    | ok values =>
      rw [hvalues] at hhooked
      cases hhooked
      rw [structureIsValid, Bool.and_eq_true, Bool.and_eq_true] at hvalid
      rw [RawJson.Bounded, (hookedItems_eq_ok hvalues).1]
      exact of_decide_eq_true hvalid.1.2
  | object members =>
    obtain ⟨values, -, hbounded, -⟩ := hooked_object hhooked
    exact hbounded _ base

theorem object_of_hooked {raw : RawJson} {values : JsonObject}
    (hhooked : raw.hooked = .ok (.object values)) : ∃ members, raw = .object members := by
  cases raw with
  | object members => exact ⟨members, rfl⟩
  | integer number =>
    simp only [RawJson.hooked, parseInteger] at hhooked
    split_ifs at hhooked
    cases Except.ok.inj hhooked
  | list items =>
    rw [RawJson.hooked] at hhooked
    cases hvalues : hookedItems items <;> rw [hvalues] at hhooked <;> cases hhooked
  | _ => cases hhooked

/-! ### What is admitted -/

/-- The values of the line, where `json.loads` reads it to its end. -/
def lineValue (parse : String → JsonText) (rawLine : String) : JsonText :=
  parse (removeSuffix '\r' (removeSuffix '\n' rawLine))

/-- A decoded text is a call of a tool when its shape is. -/
theorem callsTool_of_shape {raw : RawJson} {values : JsonObject}
    (hhooked : raw.hooked = .ok (.object values))
    (hshape : hasControlToolShape values = some true) : raw.CallsTool := by
  obtain ⟨members, rfl⟩ := object_of_hooked hhooked
  unfold hasControlToolShape at hshape
  split_ifs at hshape with hmethod
  · cases hshape
  · rw [Bool.not_eq_true', Bool.not_eq_false] at hmethod
    cases hget : getMember values "method" with
    | none =>
      rw [hget] at hmethod
      cases hmethod
    | some value =>
      obtain ⟨child, hchild, hvalue⟩ := hooked_member hhooked hget
      rw [hget] at hmethod
      unfold Json.isText at hmethod
      split at hmethod
      · next content heq =>
        cases heq
        rw [of_decide_eq_true hmethod] at hvalue
        rw [text_of_hooked hvalue] at hchild
        exact .member hchild (.root _)
      · cases hmethod

theorem RawJson.Bounded.imp {overlong overlong' : Prop} {path : List PathStep} {raw : RawJson}
    (himp : overlong → overlong') (hbounded : raw.Bounded overlong path) :
    raw.Bounded overlong' path := by
  cases raw with
  | text content =>
    obtain ⟨text, htext, hshort | ⟨hlong, hpath⟩⟩ := hbounded
    · exact ⟨text, htext, Or.inl hshort⟩
    · exact ⟨text, htext, Or.inr ⟨himp hlong, hpath⟩⟩
  | _ => exact hbounded

/-- A decoded request was read off one object within the limits. -/
theorem decodeRequest_withinLimits {parse : String → JsonText} {rawLine : String}
    {request : JsonRpcRequest} (hok : decodeRequest parse (some rawLine) = .ok request) :
    ∃ json, lineValue parse rawLine = .value json ∧ json.WithinLimits := by
  unfold decodeRequest at hok
  simp only at hok
  split_ifs at hok
  unfold loadJson at hok
  cases hparse : parse (removeSuffix '\r' (removeSuffix '\n' rawLine)) with
  | malformed completed message =>
    rw [hparse] at hok
    simp only at hok
    cases hcompleted : hookedItems completed <;> rw [hcompleted] at hok <;> cases hok
  | tooDeep completed =>
    rw [hparse] at hok
    simp only at hok
    cases hcompleted : hookedItems completed <;> rw [hcompleted] at hok <;> cases hok
  | value json =>
    rw [hparse] at hok
    cases hhooked : json.hooked with
    | error error =>
      simp only [hhooked, Except.mapError] at hok
      cases hok
    | ok decoded =>
      simp only [hhooked, Except.mapError] at hok
      cases decoded with
      | object values =>
        simp only [requestOfJson] at hok
        cases hshape : hasControlToolShape values with
        | none =>
          rw [hshape] at hok
          cases hok
        | some allow =>
          rw [hshape] at hok
          simp only at hok
          split_ifs at hok with hvalid
          rw [Bool.not_eq_true', Bool.not_eq_false] at hvalid
          refine ⟨json, hparse, object_of_hooked hhooked, fun path value hat => ?_⟩
          obtain ⟨found, hfound, hinner⟩ := structureIsValid_at hat hhooked hvalid
          have hdepth := structureIsValid_depth hinner
          have hbounded := bounded_of_valid hfound hinner
          rw [List.nil_append] at hbounded
          refine ⟨by omega, hbounded.imp ?_⟩
          rintro rfl
          exact callsTool_of_shape hhooked hshape
      | _ => cases hok

/-! ### What escapes -/

/-- The line is nested beyond the limit of the interpreter. -/
def NestsTooDeep (parse : String → JsonText) (rawLine : String) : Prop :=
  ∃ completed values, lineValue parse rawLine = .tooDeep completed ∧
    hookedItems completed = .ok values

/-- The object calls a tool by an array or an object. -/
def CallsByUnhashable (values : JsonObject) : Prop :=
  Json.isText (getMember values "method") "tools/call" = true ∧ ∃ params name,
    getMember values "params" = some (.object params) ∧ getMember params "name" = some name ∧
      ((∃ items, name = .list items) ∨ ∃ members, name = .object members)

/-- The line calls a tool by an array or an object. -/
def NamesUnhashable (parse : String → JsonText) (rawLine : String) : Prop :=
  ∃ json values, lineValue parse rawLine = .value json ∧ json.hooked = .ok (.object values) ∧
    CallsByUnhashable values

/-- The line fits, and its reading escapes as something else than a protocol failure. -/
def Escapes (parse : String → JsonText) (rawLine : Option String) : Prop :=
  ∃ raw, rawLine = some raw ∧
    (removeSuffix '\r' (removeSuffix '\n' raw)).utf8ByteSize ≤ maxRawLineBytes ∧
    (NestsTooDeep parse raw ∨ NamesUnhashable parse raw)

theorem hasControlToolShape_eq_none {values : JsonObject} :
    hasControlToolShape values = none ↔ CallsByUnhashable values := by
  unfold hasControlToolShape CallsByUnhashable
  by_cases hmethod : Json.isText (getMember values "method") "tools/call" = true
  · rw [hmethod, if_neg (by decide)]
    cases hparams : getMember values "params" with
    | none => simp
    | some value =>
      cases value with
      | object params =>
        cases hname : getMember params "name" with
        | none =>
          simp only [Option.some.injEq, Json.object.injEq]
          constructor
          · intro hnone
            rw [hname] at hnone
            simp only at hnone
            split_ifs at hnone
            split at hnone <;> cases hnone
          · rintro ⟨-, found, name, rfl, habsent, -⟩
            rw [hname] at habsent
            cases habsent
        | some name =>
          simp only [Option.some.injEq, Json.object.injEq, true_and]
          constructor
          · intro hnone
            refine ⟨params, name, rfl, hname, ?_⟩
            rw [hname] at hnone
            cases name with
            | list items => exact Or.inl ⟨items, rfl⟩
            | object members => exact Or.inr ⟨members, rfl⟩
            | _ =>
              simp only at hnone
              split_ifs at hnone
              split at hnone <;> cases hnone
          · rintro ⟨found, other, rfl, hother, hunhashable⟩
            rw [hname] at hother
            cases hother
            rw [hname]
            rcases hunhashable with ⟨items, rfl⟩ | ⟨members, rfl⟩
            · rfl
            · rfl
      | _ => simp
  · rw [if_pos (by simpa using hmethod)]
    simp [hmethod]

/-- The `except` arms only raise protocol failures. -/
theorem limitFailure_eq (error : LimitError) : ∃ fault, limitFailure error = .jsonRpc fault := by
  cases error <;> exact ⟨_, rfl⟩

/-- What escapes the reading of a text. -/
theorem loadJson_escapes_iff {parse : String → JsonText} {rawLine : String} :
    (∃ failure, loadJson parse (removeSuffix '\r' (removeSuffix '\n' rawLine)) = .error failure ∧
      ∀ error, failure ≠ .jsonRpc error) ↔ NestsTooDeep parse rawLine := by
  unfold loadJson NestsTooDeep lineValue
  cases parse (removeSuffix '\r' (removeSuffix '\n' rawLine)) with
  | value json =>
    constructor
    · rintro ⟨failure, hfailure, hescapes⟩
      cases hhooked : json.hooked with
      | ok value => simp [hhooked, Except.mapError] at hfailure
      | error error =>
        obtain ⟨fault, hfault⟩ := limitFailure_eq error
        simp only [hhooked, Except.mapError, Except.error.injEq] at hfailure
        exact absurd (hfailure.symm.trans hfault) (hescapes fault)
    · rintro ⟨completed, values, hdeep, -⟩
      cases hdeep
  | malformed completed message =>
    constructor
    · rintro ⟨failure, hfailure, hescapes⟩
      cases hcompleted : hookedItems completed with
      | ok values =>
        simp only [hcompleted, Except.error.injEq] at hfailure
        exact absurd hfailure.symm (hescapes _)
      | error error =>
        obtain ⟨fault, hfault⟩ := limitFailure_eq error
        simp only [hcompleted, Except.error.injEq] at hfailure
        exact absurd (hfailure.symm.trans hfault) (hescapes fault)
    · rintro ⟨completed, values, hdeep, -⟩
      cases hdeep
  | tooDeep completed =>
    constructor
    · rintro ⟨failure, hfailure, hescapes⟩
      cases hcompleted : hookedItems completed with
      | ok values => exact ⟨completed, values, rfl, hcompleted⟩
      | error error =>
        obtain ⟨fault, hfault⟩ := limitFailure_eq error
        simp only [hcompleted, Except.error.injEq] at hfailure
        exact absurd (hfailure.symm.trans hfault) (hescapes fault)
    · rintro ⟨found, values, hdeep, hhooked⟩
      cases hdeep
      exact ⟨.recursionError, by simp only [hhooked], fun error => by simp⟩

/-- What escapes the checks of a loaded value. -/
theorem requestOfJson_escapes_iff {json : Json} :
    (∃ failure, requestOfJson json = .error failure ∧ ∀ error, failure ≠ .jsonRpc error) ↔
      ∃ values, json = .object values ∧ CallsByUnhashable values := by
  constructor
  · rintro ⟨failure, hfailure, hescapes⟩
    cases json with
    | object values =>
      refine ⟨values, rfl, hasControlToolShape_eq_none.mp ?_⟩
      rw [requestOfJson] at hfailure
      cases hshape : hasControlToolShape values with
      | none => rfl
      | some allow =>
        rw [hshape] at hfailure
        simp only at hfailure
        split_ifs at hfailure
        · cases hfailure
          exact absurd rfl (hescapes _)
        · cases hrequest : requestOfValues values with
          | ok request =>
            rw [hrequest] at hfailure
            cases hfailure
          | error error =>
            rw [hrequest] at hfailure
            cases hfailure
            exact absurd rfl (hescapes _)
    | _ =>
      cases hfailure
      exact absurd rfl (hescapes _)
  · rintro ⟨values, rfl, hcalls⟩
    refine ⟨.typeError, ?_, fun error => by simp⟩
    rw [requestOfJson, hasControlToolShape_eq_none.mpr hcalls]

/-- What escapes `decode_request` besides a protocol failure. -/
theorem decodeRequest_escapes_iff {parse : String → JsonText} {rawLine : Option String} :
    (∃ failure, decodeRequest parse rawLine = .error failure ∧
      ∀ error, failure ≠ .jsonRpc error) ↔ Escapes parse rawLine := by
  cases rawLine with
  | none =>
    constructor
    · rintro ⟨failure, hfailure, hescapes⟩
      cases hfailure
      exact absurd rfl (hescapes _)
    · rintro ⟨raw, hraw, -⟩
      cases hraw
  | some raw =>
    unfold decodeRequest
    simp only
    split_ifs with hlong
    · constructor
      · rintro ⟨failure, hfailure, hescapes⟩
        cases hfailure
        exact absurd rfl (hescapes _)
      · rintro ⟨found, hfound, hfits, -⟩
        cases hfound
        exact absurd hlong (Nat.not_lt.mpr hfits)
    · have hfits := Nat.le_of_not_lt hlong
      cases hload : loadJson parse (removeSuffix '\r' (removeSuffix '\n' raw)) with
      | error failure =>
        constructor
        · rintro ⟨found, hfound, hescapes⟩
          cases hfound
          exact ⟨raw, rfl, hfits, Or.inl (loadJson_escapes_iff.mp ⟨failure, hload, hescapes⟩)⟩
        · rintro ⟨found, hfound, -, hdeep | ⟨json, values, hvalue, hhooked, -⟩⟩
          · cases hfound
            obtain ⟨other, hother, hescapes⟩ := loadJson_escapes_iff.mpr hdeep
            rw [hload] at hother
            cases hother
            exact ⟨failure, rfl, hescapes⟩
          · cases hfound
            rw [lineValue] at hvalue
            simp [loadJson, hvalue, hhooked, Except.mapError] at hload
      | ok json =>
        have hvalue : ∃ text, lineValue parse raw = .value text ∧ text.hooked = .ok json := by
          unfold loadJson at hload
          unfold lineValue
          cases hparse : parse (removeSuffix '\r' (removeSuffix '\n' raw)) with
          | value text =>
            cases hhooked : text.hooked with
            | ok value =>
              simp only [hparse, hhooked, Except.mapError, Except.ok.injEq] at hload
              exact ⟨text, rfl, hhooked.trans (congrArg Except.ok hload)⟩
            | error error => simp [hparse, hhooked, Except.mapError] at hload
          | malformed completed message =>
            simp only [hparse] at hload
            split at hload <;> cases hload
          | tooDeep completed =>
            simp only [hparse] at hload
            split at hload <;> cases hload
        obtain ⟨text, htext, hhooked⟩ := hvalue
        rw [requestOfJson_escapes_iff]
        constructor
        · rintro ⟨values, rfl, hcalls⟩
          exact ⟨raw, rfl, hfits, Or.inr ⟨text, values, htext, hhooked, hcalls⟩⟩
        · rintro ⟨found, hfound, -, ⟨completed, values, hdeep, -⟩ |
            ⟨other, values, hother, hvalues, hcalls⟩⟩
          · cases hfound
            rw [htext] at hdeep
            cases hdeep
          · cases hfound
            rw [htext] at hother
            cases hother
            rw [hhooked] at hvalues
            exact ⟨values, Except.ok.inj hvalues, hcalls⟩

end CodexMustWork
