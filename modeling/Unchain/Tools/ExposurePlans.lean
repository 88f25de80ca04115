import Unchain.Tools.Exposure

/-!
Exposure plans are partitions and replay exactly.

`Consistent` ties the plan, the exposed toolkit and the loaded names of a runtime together; preparing
establishes it and every `tool_load` keeps it, for toolkits of plain names. A snapshot writes down
just what a consistent runtime is determined by, so a replay reads the same plan back.
-/

namespace Unchain.Tools

open Lib Lib.Effect Python Interaction

/-! ### Names -/

/-- A name that `_unique_names` and `_plan_name_list` leave as it is. -/
def PlainName (name : String) : Prop := strip name = name ∧ name ≠ ""

def PlainNames (t : Toolkit) : Prop := ∀ name ∈ t.names, PlainName name ∧ name ∉ metaToolNames

theorem plainName_meta : ∀ name ∈ metaToolNames, PlainName name := by
  unfold PlainName
  decide +kernel

variable {name : String}

theorem mem_uniqueNamesFrom (seen raw : List String) : name ∈ uniqueNamesFrom seen raw ↔
      name ∉ seen ∧ name ≠ "" ∧ ∃ text ∈ raw, strip text = name := by
  induction raw generalizing seen with
  | nil => simp [uniqueNamesFrom]
  | cons text raw ih =>
    simp only [uniqueNamesFrom]
    split
    · next skipped =>
      rw [ih]
      constructor
      · rintro ⟨fresh, nonempty, other, mem, rfl⟩
        exact ⟨fresh, nonempty, other, List.mem_cons_of_mem _ mem, rfl⟩
      · rintro ⟨fresh, nonempty, other, mem, rfl⟩
        refine ⟨fresh, nonempty, other, ?_, rfl⟩
        rcases List.mem_cons.mp mem with rfl | mem
        · exact absurd skipped (by simp [fresh, nonempty])
        · exact mem
    · next kept =>
      obtain ⟨nonempty', fresh'⟩ := not_or.mp kept
      rw [List.mem_cons, ih]
      constructor
      · rintro (rfl | ⟨fresh, nonempty, other, mem, rfl⟩)
        · exact ⟨fresh', nonempty', text, List.mem_cons_self, rfl⟩
        · exact ⟨fun seen => fresh (List.mem_cons_of_mem _ seen), nonempty, other,
            List.mem_cons_of_mem _ mem, rfl⟩
      · rintro ⟨fresh, nonempty, other, mem, rfl⟩
        by_cases same : strip other = strip text
        · exact .inl same
        · refine .inr ⟨by simp [same, fresh], nonempty, other, ?_, rfl⟩
          rcases List.mem_cons.mp mem with rfl | mem
          · exact absurd rfl same
          · exact mem

variable {raw : List String}

theorem mem_uniqueNames :
    name ∈ uniqueNames raw ↔ name ≠ "" ∧ ∃ text ∈ raw, strip text = name := by
  simp [uniqueNames, mem_uniqueNamesFrom]

theorem nodup_uniqueNamesFrom (seen raw : List String) : (uniqueNamesFrom seen raw).Nodup := by
  induction raw generalizing seen with
  | nil => exact List.nodup_nil
  | cons text raw ih =>
    simp only [uniqueNamesFrom]
    split
    · exact ih seen
    · refine List.nodup_cons.mpr ⟨?_, ih _⟩
      rw [mem_uniqueNamesFrom]
      simp

theorem nodup_uniqueNames (raw : List String) : (uniqueNames raw).Nodup :=
  nodup_uniqueNamesFrom [] raw

theorem length_uniqueNamesFrom_le (seen raw : List String) :
    (uniqueNamesFrom seen raw).length ≤ raw.length := by
  induction raw generalizing seen with
  | nil => simp [uniqueNamesFrom]
  | cons text raw ih =>
    simp only [uniqueNamesFrom]
    split
    · exact (ih seen).trans (Nat.le_succ _)
    · exact Nat.succ_le_succ (ih _)

theorem mem_uniqueNames_of_plain (plain : ∀ text ∈ raw, PlainName text) :
    name ∈ uniqueNames raw ↔ name ∈ raw := by
  rw [mem_uniqueNames]
  constructor
  · rintro ⟨_, text, mem, rfl⟩
    rw [(plain text mem).1]
    exact mem
  · intro mem
    exact ⟨(plain name mem).2, name, mem, (plain name mem).1⟩

/-! ### Toolkits -/

namespace Toolkit

variable (t : Toolkit) {name : String}

theorem mem_names_iff : name ∈ t.names ↔ (t.get name).isSome = true := by
  simp [names, get, List.find?_isSome]

theorem get_name {tool : Tool} (h : t.get name = some tool) : tool.name = name := by
  simpa using List.find?_some h

theorem get_register (tool : Tool) (name : String) :
    (t.register tool).get name = if tool.name = name then some tool else t.get name := by
  by_cases known : tool.name ∈ t.names
  · have tools : (t.register tool).tools =
        t.tools.map fun other => if other.name = tool.name then tool else other := if_pos known
    have named : (fun other : Tool => other.name == name) ∘
        (fun other => if other.name = tool.name then tool else other) =
        fun other => other.name == name := by
      funext other
      by_cases h : other.name = tool.name <;> simp [h]
    rw [get, tools, List.find?_map, named]
    cases found : t.get name with
    | none =>
      have other : tool.name ≠ name := by
        rintro rfl
        have := t.mem_names_iff.mp known
        rw [found] at this
        cases this
      rw [get] at found
      simp [found, other]
    | some other =>
      have same := t.get_name found
      rw [get] at found
      by_cases h : tool.name = name
      · simp [found, h, same]
      · simp [found, h, same, Ne.symm h]
  · have tools : (t.register tool).tools = t.tools ++ [tool] := if_neg known
    rw [get, tools, List.find?_append]
    by_cases h : tool.name = name
    · have absent : (t.tools.find? fun other => other.name == name) = none := by
        have := mt t.mem_names_iff.mpr known
        rw [h] at this
        simpa [get] using this
      simp [absent, h]
    · simp [get, h]

theorem length_register_le (tool : Tool) : (t.register tool).tools.length ≤ t.tools.length + 1 := by
  unfold register
  split <;> simp

theorem length_foldl_register_le (tools : List Tool) :
    (tools.foldl register t).tools.length ≤ t.tools.length + tools.length := by
  induction tools generalizing t with
  | nil => exact le_rfl
  | cons tool tools ih =>
    have first := t.length_register_le tool
    have rest := ih (t.register tool)
    simp only [List.foldl_cons, List.length_cons]
    omega

theorem get_foldl_register (tools : List Tool) (distinct : (tools.map Tool.name).Nodup)
    (name : String) : (tools.foldl register t).get name =
      (tools.find? fun tool => tool.name == name).or (t.get name) := by
  induction tools generalizing t with
  | nil => rfl
  | cons tool tools ih =>
    obtain ⟨fresh, distinct⟩ := List.nodup_cons.mp distinct
    rw [List.foldl_cons, ih _ distinct, get_register]
    by_cases same : tool.name = name
    · have absent : (tools.find? fun tool => tool.name == name) = none := by
        rw [List.find?_eq_none]
        intro other mem named
        refine fresh ?_
        rw [same, ← eq_of_beq named]
        exact List.mem_map_of_mem mem
      simp [same, absent]
    · simp [same]

end Toolkit

/-! ### Direct names -/

section Direct

variable (rt : ToolExposureRuntime) {name : String}

theorem mem_alwaysLoadNames (h : name ∈ alwaysLoadNames rt) :
    name ∈ rt.fullToolkit.names ∧ name ∉ metaToolNames := by
  obtain ⟨tool, mem, rfl⟩ := List.mem_map.mp h
  obtain ⟨mem, kept⟩ := List.mem_filter.mp mem
  have catalogued := (Bool.and_eq_true _ _).mp kept |>.1
  exact ⟨List.mem_map_of_mem mem, of_decide_eq_true catalogued⟩

theorem chooseDirect_adds (budget : Nat) (direct selected : List String) :
    ∃ added, chooseDirect rt budget direct selected = direct ++ added ∧
      (direct.Nodup → (direct ++ added).Nodup) ∧
      ∀ name ∈ added, name ∈ rt.fullToolkit.names ∧ name ∉ metaToolNames := by
  induction selected generalizing direct with
  | nil => exact ⟨[], by simp [chooseDirect], by simp, by simp⟩
  | cons name rest ih =>
    simp only [chooseDirect]
    split
    · exact ih direct
    · next usable =>
      simp only [not_or, not_not] at usable
      obtain ⟨fresh, known, plain⟩ := usable
      have extended : direct.Nodup → (direct ++ [name]).Nodup := by
        intro nodup
        refine List.nodup_append.mpr ⟨nodup, List.nodup_singleton name, ?_⟩
        rintro other mem _ last rfl
        rw [List.mem_singleton] at last
        exact fresh (last ▸ mem)
      split
      · exact ⟨[name], rfl, extended, by simpa using ⟨known, plain⟩⟩
      · obtain ⟨added, eq, nodup, mem⟩ := ih (direct ++ [name])
        refine ⟨name :: added, by simp [eq], fun h => by simpa using nodup (extended h), ?_⟩
        intro other isOther
        rcases List.mem_cons.mp isOther with rfl | isOther
        · exact ⟨known, plain⟩
        · exact mem other isOther

theorem length_chooseDirect_le (budget : Nat) (direct selected : List String)
    (room : direct.length < budget) : (chooseDirect rt budget direct selected).length ≤ budget := by
  induction selected generalizing direct with
  | nil => exact room.le
  | cons name rest ih =>
    simp only [chooseDirect]
    split
    · exact ih direct room
    · split
      · simpa using room
      · exact ih _ (by omega)

theorem resolveDirectOriginalNames_length_le (selected : List String) :
    (resolveDirectOriginalNames rt selected).length + metaToolNames.length ≤
      max rt.config.maxDirectTools ((alwaysLoadNames rt).length + metaToolNames.length) := by
  have always : (uniqueNames (alwaysLoadNames rt)).length ≤ (alwaysLoadNames rt).length :=
    length_uniqueNamesFrom_le [] _
  simp only [resolveDirectOriginalNames]
  split
  · omega
  · next room =>
    have chosen := length_chooseDirect_le rt _ _ selected (Nat.lt_of_not_le room)
    omega

theorem nodup_resolveDirectOriginalNames (selected : List String) :
    (resolveDirectOriginalNames rt selected).Nodup := by
  have always := nodup_uniqueNames (alwaysLoadNames rt)
  simp only [resolveDirectOriginalNames]
  split
  · exact always
  · obtain ⟨added, eq, nodup, -⟩ := chooseDirect_adds rt
      (rt.config.maxDirectTools - metaToolNames.length) (uniqueNames (alwaysLoadNames rt)) selected
    rw [eq]
    exact nodup always

theorem mem_resolveDirectOriginalNames
    (plain : ∀ name ∈ rt.fullToolkit.names, name ∉ metaToolNames → PlainName name)
    {selected : List String} (h : name ∈ resolveDirectOriginalNames rt selected) :
    name ∈ rt.fullToolkit.names ∧ name ∉ metaToolNames := by
  have always : ∀ name ∈ uniqueNames (alwaysLoadNames rt),
      name ∈ rt.fullToolkit.names ∧ name ∉ metaToolNames := by
    intro name mem
    obtain ⟨-, text, loaded, rfl⟩ := mem_uniqueNames.mp mem
    obtain ⟨known, catalogued⟩ := mem_alwaysLoadNames rt loaded
    rw [(plain text known catalogued).1]
    exact ⟨known, catalogued⟩
  simp only [resolveDirectOriginalNames] at h
  split at h
  · exact always name h
  · obtain ⟨added, eq, -, mem⟩ := chooseDirect_adds rt
      (rt.config.maxDirectTools - metaToolNames.length) (uniqueNames (alwaysLoadNames rt)) selected
    rw [eq] at h
    rcases List.mem_append.mp h with h | h
    · exact always name h
    · exact mem name h

/-! ### Exposed toolkits -/

theorem map_name_metaTools : metaTools.map Tool.name = metaToolNames := rfl

variable {direct : List String}

theorem map_name_filterMap_get :
    (direct.filterMap rt.fullToolkit.get).map Tool.name =
      direct.filter (· ∈ rt.fullToolkit.names) := by
  induction direct with
  | nil => rfl
  | cons name direct ih =>
    cases found : rt.fullToolkit.get name with
    | none =>
      have unknown : name ∉ rt.fullToolkit.names := by
        rw [Toolkit.mem_names_iff, found]
        simp
      simp [found, unknown, ih]
    | some tool =>
      have known : name ∈ rt.fullToolkit.names := by
        rw [Toolkit.mem_names_iff, found]
        rfl
      simp [found, known, ih, Toolkit.get_name _ found]

theorem find_filterMap_get (name : String) :
    ((direct.filterMap rt.fullToolkit.get).find? fun tool => tool.name == name) =
      if name ∈ direct then rt.fullToolkit.get name else none := by
  induction direct with
  | nil => rfl
  | cons other direct ih =>
    cases found : rt.fullToolkit.get other with
    | none =>
      rw [List.filterMap_cons_none found, ih]
      by_cases same : name = other
      · subst same
        simp [found]
      · simp [same]
    | some tool =>
      rw [List.filterMap_cons_some found, List.find?_cons]
      have named := Toolkit.get_name _ found
      by_cases same : name = other
      · subst same
        simp [named, found]
      · have differs : (tool.name == name) = false := by simp [named, Ne.symm same]
        rw [differs, ih]
        simp [same]

/-- The tool that the provider sees under a name. -/
def exposedTool (direct : List String) (name : String) : Option Tool :=
  if name ∈ metaToolNames then metaTools.find? fun tool => tool.name == name
  else if name ∈ direct then rt.fullToolkit.get name else none

theorem get_buildExposedToolkit (nodup : direct.Nodup)
    (catalogued : ∀ name ∈ direct, name ∉ metaToolNames) (name : String) :
    (buildExposedToolkit rt direct).get name = exposedTool rt direct name := by
  have distinct : ((direct.filterMap rt.fullToolkit.get ++ metaTools).map Tool.name).Nodup := by
    rw [List.map_append, map_name_filterMap_get, map_name_metaTools, List.nodup_append]
    refine ⟨nodup.filter _, by decide, ?_⟩
    rintro name mem _ other rfl
    exact catalogued name (List.mem_filter.mp mem).1 other
  have empty : Toolkit.empty.get name = none := rfl
  rw [buildExposedToolkit, Toolkit.get_foldl_register _ _ distinct, empty, Option.or_none,
    List.find?_append, find_filterMap_get, exposedTool]
  by_cases isMeta : name ∈ metaToolNames
  · have other : name ∉ direct := fun mem => catalogued name mem isMeta
    simp [isMeta, other]
  · have absent : (metaTools.find? fun tool => tool.name == name) = none := by
      rw [List.find?_eq_none]
      intro tool mem named
      refine isMeta ?_
      rw [← map_name_metaTools, ← eq_of_beq named]
      exact List.mem_map_of_mem mem
    simp [isMeta, absent]

theorem length_buildExposedToolkit_le :
    (buildExposedToolkit rt direct).tools.length ≤ direct.length + metaToolNames.length := by
  have registered := Toolkit.length_foldl_register_le .empty
    (direct.filterMap rt.fullToolkit.get ++ metaTools)
  have found := List.length_filterMap_le rt.fullToolkit.get direct
  have metas : metaTools.length = metaToolNames.length := rfl
  have empty : Toolkit.empty.tools.length = 0 := rfl
  rw [List.length_append] at registered
  unfold buildExposedToolkit
  omega

end Direct

/-! ### Consistent runtimes -/

section Consistency

variable (host : ExposureHost) (rt : ToolExposureRuntime)

structure Consistent (e : Exposure) : Prop where
  used : e.selectorUsed = true
  records : e.recordsByName = buildRecords host rt
  nodup : e.plan.directToolNames.Nodup
  metas : ∀ name ∈ metaToolNames, name ∈ e.plan.directToolNames
  direct : ∀ name ∈ e.plan.directToolNames, name ∈ metaToolNames ∨ name ∈ rt.fullToolkit.names
  deferred : e.plan.deferredToolNames =
    rt.fullToolkit.names.filter (· ∉ e.plan.directToolNames)
  loaded : e.plan.loadedToolNames = e.loadedNames
  loadedNodup : e.loadedNames.Nodup
  loadedDirect : ∀ name ∈ e.loadedNames, name ∈ e.plan.directToolNames ∧ name ∈ rt.fullToolkit.names
  exposed : ∀ name, e.exposedToolkit.get name = exposedTool rt e.plan.directToolNames name

variable {rt} {direct : List String}

theorem consistent_of_direct (plain : PlainNames rt.fullToolkit) {loaded : List String}
    {status reason : String} (nodup : direct.Nodup)
    (known : ∀ name ∈ direct, name ∈ rt.fullToolkit.names) (loadedNodup : loaded.Nodup)
    (loadedDirect : ∀ name ∈ loaded, name ∈ direct) : Consistent host rt
      { plan := { directToolNames := direct ++ metaToolNames
                  deferredToolNames := rt.fullToolkit.names.filter (· ∉ direct)
                  loadedToolNames := loaded, selectorStatus := status, fallbackReason := reason }
        exposedToolkit := buildExposedToolkit rt direct
        recordsByName := buildRecords host rt, loadedNames := loaded, selectorUsed := true } := by
  have catalogued : ∀ name ∈ direct, name ∉ metaToolNames :=
    fun name mem => (plain name (known name mem)).2
  constructor
  · rfl
  · rfl
  · refine List.nodup_append.mpr ⟨nodup, by decide, ?_⟩
    rintro name mem _ other rfl
    exact catalogued name mem other
  · exact fun name mem => List.mem_append_right _ mem
  · intro name mem
    rcases List.mem_append.mp mem with mem | mem
    · exact .inr (known name mem)
    · exact .inl mem
  · refine List.filter_congr fun name mem => ?_
    have := (plain name mem).2
    simp [this]
  · rfl
  · exact loadedNodup
  · intro name mem
    have inDirect := loadedDirect name mem
    exact ⟨List.mem_append_left _ inDirect, known name inDirect⟩
  · intro name
    rw [get_buildExposedToolkit rt nodup catalogued, exposedTool, exposedTool]
    by_cases isMeta : name ∈ metaToolNames <;> simp [isMeta]

variable {e : Exposure}

theorem prepareSelected_consistent (plain : PlainNames rt.fullToolkit)
    (h : prepareSelected host rt = .ok e) : Consistent host rt e := by
  obtain ⟨⟨selected, status, reason⟩, -, h⟩ := bind_ok h
  cases h
  exact consistent_of_direct host plain (nodup_resolveDirectOriginalNames rt selected)
    (fun name mem => (mem_resolveDirectOriginalNames rt
      (fun name mem _ => (plain name mem).1) mem).1) List.nodup_nil (by simp)

/-- What `prepare` engaged the selector for. -/
theorem prepare_engaged (h : prepare host rt none = .ok e) (engaged : e.selectorUsed = true) :
    rt.config.enabled = true ∧ prepareSelected host rt = .ok e := by
  unfold prepare at h
  dsimp only at h
  split at h
  · cases h
    cases engaged
  · next enabled =>
    split at h
    · cases h
      cases engaged
    · exact ⟨by simpa using enabled, h⟩

/-! ### Loading keeps it -/

variable {record : ExposureToolRecord}

theorem mem_buildRecords (h : record ∈ buildRecords host rt) :
    record.name ∈ rt.fullToolkit.names ∧ record.name ∉ metaToolNames := by
  obtain ⟨tool, mem, rfl⟩ := List.mem_map.mp h
  obtain ⟨mem, catalogued⟩ := List.mem_filter.mp mem
  exact ⟨List.mem_map_of_mem mem, of_decide_eq_true catalogued⟩

theorem mem_resolveRecords {handles names : NameArgument}
    (h : record ∈ (resolveRecords e handles names).1) : record ∈ e.recordsByName := by
  obtain ⟨value, -, found⟩ := List.mem_filterMap.mp h
  exact List.mem_of_find?_eq_some found

/-- The loop of `tool_load`, over the names that were direct before. -/
structure LoadsOver (rt : ToolExposureRuntime) (e : Exposure) (l : Loading) : Prop where
  nodup : l.loadedNames.Nodup
  known : ∀ name ∈ l.loadedNames, name ∈ rt.fullToolkit.names
  keeps : ∀ name ∈ e.loadedNames, name ∈ l.loadedNames
  exposed : ∀ name, l.exposedToolkit.get name =
    exposedTool rt (e.plan.directToolNames ++ l.loadedNames) name

theorem exposedTool_congr {direct' : List String} (same : ∀ name, name ∈ direct ↔ name ∈ direct')
    (name : String) : exposedTool rt direct name = exposedTool rt direct' name := by
  simp only [exposedTool, same]

variable {l : Loading}

section

variable (plain : PlainNames rt.fullToolkit)

include plain

theorem loadRecord_loadsOver (h : LoadsOver rt e l) (known : record.name ∈ rt.fullToolkit.names) :
    LoadsOver rt e (loadRecord rt l record) := by
  unfold loadRecord
  cases found : rt.fullToolkit.get record.name with
  | none => exact ⟨h.nodup, h.known, h.keeps, h.exposed⟩
  | some tool =>
    dsimp only
    split
    · exact ⟨h.nodup, h.known, h.keeps, h.exposed⟩
    · next hidden =>
      have named := Toolkit.get_name _ found
      have catalogued := (plain record.name known).2
      have fresh : record.name ∉ l.loadedNames := by
        intro mem
        refine hidden ?_
        rw [Toolkit.mem_names_iff, h.exposed, exposedTool, if_neg catalogued,
          if_pos (List.mem_append_right _ mem), found]
        rfl
      rw [if_neg fresh]
      constructor
      · refine List.nodup_append.mpr ⟨h.nodup, List.nodup_singleton _, ?_⟩
        rintro other mem _ last rfl
        rw [List.mem_singleton] at last
        exact fresh (last ▸ mem)
      · intro name mem
        rcases List.mem_append.mp mem with mem | mem
        · exact h.known name mem
        · rw [List.mem_singleton.mp mem]
          exact known
      · exact fun name mem => List.mem_append_left _ (h.keeps name mem)
      · intro name
        rw [Toolkit.get_register, h.exposed, named, exposedTool, exposedTool]
        by_cases same : record.name = name
        · subst same
          simp [catalogued, found]
        · simp [same, Ne.symm same]

theorem foldl_loadRecord_loadsOver (records : List ExposureToolRecord) (h : LoadsOver rt e l)
    (known : ∀ record ∈ records, record.name ∈ rt.fullToolkit.names) :
    LoadsOver rt e (records.foldl (loadRecord rt) l) := by
  induction records generalizing l with
  | nil => exact h
  | cons record records ih =>
    exact ih (loadRecord_loadsOver plain h (known record List.mem_cons_self))
      fun other mem => known other (List.mem_cons_of_mem _ mem)

theorem plain_of_direct (h : Consistent host rt e) {name : String}
    (mem : name ∈ e.plan.directToolNames) : PlainName name := by
  rcases h.direct name mem with isMeta | known
  · exact plainName_meta name isMeta
  · exact (plain name known).1

theorem toolLoad_consistent (h : Consistent host rt e) (handles names : NameArgument) :
    Consistent host rt (toolLoad rt e handles names).1 := by
  let first : Loading :=
    { exposedToolkit := e.exposedToolkit
      loadedNames := e.loadedNames
      loaded := []
      alreadyLoaded := []
      failed := (resolveRecords e handles names).2 }
  have start : LoadsOver rt e first := by
    refine ⟨h.loadedNodup, fun name mem => (h.loadedDirect name mem).2, fun _ mem => mem, ?_⟩
    intro name
    rw [h.exposed]
    refine exposedTool_congr (fun other => ?_) name
    rw [List.mem_append]
    exact ⟨.inl, fun mem => mem.elim id fun mem => (h.loadedDirect other mem).1⟩
  have loads := foldl_loadRecord_loadsOver plain (resolveRecords e handles names).1 start
    fun record mem => by
      have := mem_resolveRecords mem
      rw [h.records] at this
      exact (mem_buildRecords host this).1
  unfold toolLoad
  dsimp only
  generalize (resolveRecords e handles names).1.foldl (loadRecord rt) _ = l at loads ⊢
  have texts : ∀ text ∈ e.plan.directToolNames ++ l.loadedNames, PlainName text := by
    intro text mem
    rcases List.mem_append.mp mem with mem | mem
    · exact plain_of_direct host plain h mem
    · exact (plain text (loads.known text mem)).1
  have mem_direct : ∀ name, name ∈ uniqueNames (e.plan.directToolNames ++ l.loadedNames) ↔
      name ∈ e.plan.directToolNames ++ l.loadedNames := fun name => mem_uniqueNames_of_plain texts
  constructor
  · exact h.used
  · exact h.records
  · exact nodup_uniqueNames _
  · intro name isMeta
    rw [mem_direct]
    exact List.mem_append_left _ (h.metas name isMeta)
  · intro name mem
    rw [mem_direct] at mem
    rcases List.mem_append.mp mem with mem | mem
    · exact h.direct name mem
    · exact .inr (loads.known name mem)
  · simp only [h.deferred, List.filter_filter]
    refine List.filter_congr fun name _ => ?_
    simp only [mem_direct, List.mem_append, not_or, Bool.decide_and, Bool.and_comm]
  · rfl
  · exact loads.nodup
  · intro name mem
    rw [mem_direct]
    exact ⟨List.mem_append_right _ mem, loads.known name mem⟩
  · intro name
    rw [loads.exposed]
    exact exposedTool_congr (fun other => (mem_direct other).symm) name

theorem loadAll_consistent (h : Consistent host rt e) (calls : List (NameArgument × NameArgument)) :
    Consistent host rt (loadAll rt e calls) := by
  induction calls generalizing e with
  | nil => exact h
  | cons call calls ih => exact ih (toolLoad_consistent host plain h call.1 call.2)

end

end Consistency

/-! ### Replays -/

section Replay

variable (host : ExposureHost) (rt : ToolExposureRuntime)

def nameList (names : List String) : Value := .list (names.map .str)

def snapshotOf (digest : String) (direct deferred loaded : List String) : Value :=
  .dict [("schema_version", .int 1), ("provider", .str rt.provider),
    ("catalog_digest", .str digest), ("direct_tool_names", nameList direct),
    ("deferred_tool_names", nameList deferred), ("loaded_tool_names", nameList loaded)]

variable {e : Exposure}

theorem durablePlanSnapshot_ok {snapshot : Value} : durablePlanSnapshot host rt e = .ok snapshot ↔
      e.selectorUsed = true ∧ ∃ digest, catalogDigest host rt = .ok digest ∧
        snapshot = snapshotOf rt digest (e.plan.directToolNames.filter (· ∉ metaToolNames))
          e.plan.deferredToolNames e.plan.loadedToolNames := by
  constructor
  · intro h
    obtain ⟨used, h⟩ := raiseIf_bind_ok h
    obtain ⟨digest, digested, h⟩ := bind_ok h
    cases h
    exact ⟨by simpa using used, digest, digested, rfl⟩
  · rintro ⟨used, digest, digested, rfl⟩
    simp only [durablePlanSnapshot, used, digested]
    rfl

variable {names : List String}

theorem planNameList_nameList (plain : ∀ name ∈ names, PlainName name) (nodup : names.Nodup)
    (fieldName : String) : planNameList (nameList names) fieldName = .ok names := by
  have texts : (names.map Value.str).all isNameText = true := by
    rw [List.all_map, List.all_eq_true]
    intro name mem
    simp [isNameText, (plain name mem).1, (plain name mem).2]
  have same : (names.map Value.str).map nameText = names := by
    rw [List.map_map]
    calc names.map (nameText ∘ Value.str) = names.map id :=
          List.map_congr_left fun name mem => (plain name mem).1
      _ = names := List.map_id names
  simp only [planNameList, nameList, Value.items_list, Value.isList_list, texts, same]
  simp [raiseIf, nodup]
  rfl

variable {raw : Value}

theorem plain_of_planNameList {fieldName : String} (h : planNameList raw fieldName = .ok names) :
    ∀ name ∈ names, PlainName name := by
  obtain ⟨texts, h⟩ := raiseIf_bind_ok h
  obtain ⟨-, h⟩ := raiseIf_bind_ok h
  cases h
  intro name mem
  obtain ⟨v, isItem, rfl⟩ := List.mem_map.mp mem
  simp only [Bool.or_eq_false_iff, Bool.not_eq_false'] at texts
  have text := List.all_eq_true.mp texts.2 v isItem
  cases v with
  | str s => exact ⟨strip_strip s, by simpa [isNameText, nameText] using text⟩
  | _ => cases text

variable {deferred direct : List String}

theorem partitions_iff {full : List String} :
    partitions direct deferred full = true ↔ (∀ name ∈ direct, name ∉ deferred) ∧
      (∀ name, name ∈ direct ∨ name ∈ deferred → name ∈ full) ∧
      ∀ name ∈ full, name ∈ direct ∨ name ∈ deferred := by
  simp only [partitions, Bool.and_eq_true, List.all_eq_true, decide_eq_true_eq, List.mem_append,
    and_assoc]

variable {digest : String}

/-- What the checks of a replay let through. -/
theorem readReplayPlan_snapshot {loaded : List String} (enabled : rt.config.enabled = true)
    (digested : catalogDigest host rt = .ok digest) (nonempty : digest ≠ "")
    (plainDirect : ∀ name ∈ direct, PlainName name) (nodupDirect : direct.Nodup)
    (plainDeferred : ∀ name ∈ deferred, PlainName name) (nodupDeferred : deferred.Nodup)
    (plainLoaded : ∀ name ∈ loaded, PlainName name) (nodupLoaded : loaded.Nodup)
    (partition : partitions direct deferred
      (rt.fullToolkit.names.filter (· ∉ metaToolNames)) = true)
    (loadedDirect : ∀ name ∈ loaded, name ∈ direct) :
    readReplayPlan host rt (snapshotOf rt digest direct deferred loaded) =
      .ok (direct, deferred, loaded) := by
  have fields : hasExactly (snapshotOf rt digest direct deferred loaded) replayFields = true := rfl
  have version : ((snapshotOf rt digest direct deferred loaded).get "schema_version").eqPy
      (.int 1) = true := rfl
  have provider : (snapshotOf rt digest direct deferred loaded).get "provider" =
      .str rt.provider := rfl
  have catalog : (snapshotOf rt digest direct deferred loaded).get "catalog_digest" =
      .str digest := rfl
  have directs : (snapshotOf rt digest direct deferred loaded).get "direct_tool_names" =
      nameList direct := rfl
  have deferreds : (snapshotOf rt digest direct deferred loaded).get "deferred_tool_names" =
      nameList deferred := rfl
  have loads : (snapshotOf rt digest direct deferred loaded).get "loaded_tool_names" =
      nameList loaded := rfl
  have subset : loaded.all (· ∈ direct) = true := by simpa using loadedDirect
  have text : (Value.str digest).truthy = true := by simpa [Value.truthy] using nonempty
  have same : ∀ s : String, (Value.str s).eqPy (.str s) = true := fun s => Value.eqPy_str_iff.mpr rfl
  simp only [readReplayPlan, enabled, fields, version, provider, catalog, directs, deferreds, loads,
    same, digested, text, planNameList_nameList plainDirect nodupDirect,
    planNameList_nameList plainDeferred nodupDeferred,
    planNameList_nameList plainLoaded nodupLoaded]
  simp only [raiseIf, bind, Except.bind, pure, Except.pure, Value.isStr, same, partition, subset]
  rfl

theorem plain_of_readReplayPlan {plan : List String × List String × List String}
    (h : readReplayPlan host rt raw = .ok plan) :
    ∀ name ∈ rt.fullToolkit.names, name ∉ metaToolNames → PlainName name := by
  iterate 5 obtain ⟨-, h⟩ := raiseIf_bind_ok h
  obtain ⟨digest, -, h⟩ := bind_ok h
  obtain ⟨-, h⟩ := raiseIf_bind_ok h
  obtain ⟨direct, directs, h⟩ := bind_ok h
  obtain ⟨deferred, deferreds, h⟩ := bind_ok h
  obtain ⟨loaded, -, h⟩ := bind_ok h
  obtain ⟨partition, -⟩ := raiseIf_bind_ok h
  rw [Bool.not_eq_false'] at partition
  obtain ⟨-, -, covers⟩ := partitions_iff.mp partition
  intro name known catalogued
  rcases covers name (List.mem_filter.mpr ⟨known, decide_eq_true catalogued⟩) with mem | mem
  · exact plain_of_planNameList directs name mem
  · exact plain_of_planNameList deferreds name mem

/-! ### Exact plans -/

structure ExactPlan (e : Exposure) : Prop where
  nodup : e.plan.directToolNames.Nodup ∧ e.plan.deferredToolNames.Nodup
  covers : ∀ name, name ∈ rt.fullToolkit.names ∧ name ∉ metaToolNames ↔
    name ∈ e.plan.directToolNames ∧ name ∉ metaToolNames ∨ name ∈ e.plan.deferredToolNames
  disjoint : ∀ name ∈ e.plan.deferredToolNames, name ∉ e.plan.directToolNames
  exposed : ∀ name, name ∈ e.exposedToolkit.names ↔
    name ∈ e.plan.directToolNames ∧ name ∉ metaToolNames ∨ name ∈ metaToolNames
  loaded : ∀ name ∈ e.plan.loadedToolNames, name ∈ e.plan.directToolNames

/-- Two runtimes with the same plan, but for the place of the meta tools, and the same exposed
tools. -/
structure SamePlan (e e' : Exposure) : Prop where
  direct : e'.plan.directToolNames.filter (· ∉ metaToolNames) =
    e.plan.directToolNames.filter (· ∉ metaToolNames)
  metas : ∀ name ∈ metaToolNames, name ∈ e'.plan.directToolNames ↔ name ∈ e.plan.directToolNames
  deferred : e'.plan.deferredToolNames = e.plan.deferredToolNames
  loaded : e'.plan.loadedToolNames = e.plan.loadedToolNames
  exposed : ∀ name, e'.exposedToolkit.get name = e.exposedToolkit.get name

/-- The snapshot of a runtime is accepted by every fresh enabled one over the same toolkit and
provider, which comes to the same plan and snapshot. -/
def ReplaysExactly (e : Exposure) : Prop :=
  ∃ snapshot, durablePlanSnapshot host rt e = .ok snapshot ∧
    ∀ config selector score, config.enabled = true →
      let fresh := { rt with config := config, selector := selector, score := score }
      ∃ e', prepare host fresh (some snapshot) = .ok e' ∧
        durablePlanSnapshot host fresh e' = .ok snapshot ∧ SamePlan e e'

variable {rt}

theorem Consistent.exactPlan (plain : PlainNames rt.fullToolkit) (h : Consistent host rt e) :
    ExactPlan rt e := by
  have mem_deferred : ∀ name, name ∈ e.plan.deferredToolNames ↔
      name ∈ rt.fullToolkit.names ∧ name ∉ e.plan.directToolNames := by
    intro name
    rw [h.deferred, List.mem_filter, decide_eq_true_eq]
  constructor
  · refine ⟨h.nodup, ?_⟩
    rw [h.deferred]
    exact rt.fullToolkit.distinct.filter _
  · intro name
    rw [mem_deferred]
    constructor
    · rintro ⟨known, catalogued⟩
      by_cases direct : name ∈ e.plan.directToolNames
      · exact .inl ⟨direct, catalogued⟩
      · exact .inr ⟨known, direct⟩
    · rintro (⟨direct, catalogued⟩ | ⟨known, -⟩)
      · exact ⟨(h.direct name direct).resolve_left catalogued, catalogued⟩
      · exact ⟨known, (plain name known).2⟩
  · exact fun name mem => ((mem_deferred name).mp mem).2
  · intro name
    rw [Toolkit.mem_names_iff, h.exposed, exposedTool]
    by_cases isMeta : name ∈ metaToolNames
    · have found : (metaTools.find? fun tool => tool.name == name).isSome = true := by
        rw [List.find?_isSome]
        rw [← map_name_metaTools] at isMeta
        obtain ⟨tool, mem, rfl⟩ := List.mem_map.mp isMeta
        exact ⟨tool, mem, by simp⟩
      simp [isMeta, found]
    · by_cases direct : name ∈ e.plan.directToolNames
      · have known := (h.direct name direct).resolve_left isMeta
        rw [Toolkit.mem_names_iff] at known
        simp [isMeta, direct, known]
      · simp [isMeta, direct]
  · intro name mem
    rw [h.loaded] at mem
    exact (h.loadedDirect name mem).1

theorem Consistent.replaysExactly (plain : PlainNames rt.fullToolkit) (h : Consistent host rt e)
    (digested : catalogDigest host rt = .ok digest) (nonempty : digest ≠ "") :
    ReplaysExactly host rt e := by
  set direct := e.plan.directToolNames.filter (· ∉ metaToolNames) with directEq
  have mem_direct : ∀ name, name ∈ direct ↔
      name ∈ e.plan.directToolNames ∧ name ∉ metaToolNames := by
    intro name
    rw [directEq, List.mem_filter, decide_eq_true_eq]
  have known : ∀ name ∈ direct, name ∈ rt.fullToolkit.names := by
    intro name mem
    obtain ⟨mem, catalogued⟩ := (mem_direct name).mp mem
    exact (h.direct name mem).resolve_left catalogued
  have deferredEq : e.plan.deferredToolNames = rt.fullToolkit.names.filter (· ∉ direct) := by
    rw [h.deferred]
    refine List.filter_congr fun name mem => ?_
    have := (plain name mem).2
    simp [mem_direct, this]
  have loadedDirect : ∀ name ∈ e.loadedNames, name ∈ direct := by
    intro name mem
    obtain ⟨inDirect, inToolkit⟩ := h.loadedDirect name mem
    exact (mem_direct name).mpr ⟨inDirect, (plain name inToolkit).2⟩
  refine ⟨_, (durablePlanSnapshot_ok host rt).mpr ⟨h.used, digest, digested, rfl⟩, ?_⟩
  intro config selector score enabled fresh
  have nodup : direct.Nodup := h.nodup.filter _
  have full : fresh.fullToolkit.names.filter (· ∉ metaToolNames) = rt.fullToolkit.names := by
    refine List.filter_eq_self.mpr fun name mem => ?_
    exact decide_eq_true (plain name mem).2
  have partition : partitions direct e.plan.deferredToolNames
      (fresh.fullToolkit.names.filter (· ∉ metaToolNames)) = true := by
    rw [partitions_iff, full, deferredEq]
    refine ⟨fun name mem deferred => ?_, ?_, fun name mem => ?_⟩
    · exact absurd mem (of_decide_eq_true (List.mem_filter.mp deferred).2)
    · rintro name (mem | mem)
      · exact known name mem
      · exact (List.mem_filter.mp mem).1
    · by_cases inDirect : name ∈ direct
      · exact .inl inDirect
      · exact .inr (List.mem_filter.mpr ⟨mem, decide_eq_true inDirect⟩)
  have plainLoaded : ∀ name ∈ e.plan.loadedToolNames, PlainName name := by
    rw [h.loaded]
    exact fun name mem => (plain name (h.loadedDirect name mem).2).1
  have nodupLoaded : e.plan.loadedToolNames.Nodup := by
    rw [h.loaded]
    exact h.loadedNodup
  have subset : ∀ name ∈ e.plan.loadedToolNames, name ∈ direct := by
    rw [h.loaded]
    exact loadedDirect
  have read := readReplayPlan_snapshot host fresh enabled digested nonempty
    (fun name mem => (plain name (known name mem)).1) nodup
    (fun name mem => by
      rw [deferredEq] at mem
      exact (plain name (List.mem_filter.mp mem).1).1)
    (by rw [deferredEq]; exact rt.fullToolkit.distinct.filter _)
    plainLoaded nodupLoaded partition subset
  let replay : Exposure :=
    { plan :=
        { directToolNames := direct ++ metaToolNames
          deferredToolNames := e.plan.deferredToolNames
          loadedToolNames := e.plan.loadedToolNames
          selectorStatus := "replayed"
          fallbackReason := "" }
      exposedToolkit := buildExposedToolkit fresh direct
      recordsByName := buildRecords host fresh
      loadedNames := e.plan.loadedToolNames
      selectorUsed := true }
  have replayed : prepare host fresh (some (snapshotOf rt digest direct e.plan.deferredToolNames
      e.plan.loadedToolNames)) = .ok replay := by
    show prepareReplayPlan host fresh _ = _
    unfold prepareReplayPlan
    rw [show snapshotOf rt = snapshotOf fresh from rfl, read]
    rfl
  have catalogued : (direct ++ metaToolNames).filter (· ∉ metaToolNames) = direct := by
    have front : direct.filter (· ∉ metaToolNames) = direct := by
      rw [directEq, List.filter_filter]
      simp
    have back : metaToolNames.filter (· ∉ metaToolNames) = [] := by decide
    rw [List.filter_append, front, back, List.append_nil]
  refine ⟨replay, replayed, ?_, ?_⟩
  · refine (durablePlanSnapshot_ok host fresh).mpr ⟨rfl, digest, digested, ?_⟩
    rw [catalogued]
    rfl
  · constructor
    · exact catalogued
    · intro name isMeta
      exact ⟨fun _ => h.metas name isMeta, fun _ => List.mem_append_right _ isMeta⟩
    · rfl
    · rfl
    · intro name
      rw [h.exposed]
      refine (get_buildExposedToolkit fresh nodup (fun name mem => ((mem_direct name).mp mem).2)
        name).trans ?_
      simp only [exposedTool, mem_direct]
      by_cases isMeta : name ∈ metaToolNames
      · simp [isMeta]
      · simp [isMeta, fresh]

end Replay

/-! ### Tools named like a meta tool -/

section Shadowed

variable (host : ExposureHost) (rt : ToolExposureRuntime)

structure Shadowed (e : Exposure) : Prop where
  records : e.recordsByName = buildRecords host rt
  loaded : ∀ name ∈ e.loadedNames, name ∉ metaToolNames
  deferred : ∀ name ∈ rt.fullToolkit.names, name ∈ metaToolNames → name ∈ e.plan.deferredToolNames

variable {rt} {e : Exposure}

theorem prepareSelected_shadowed
    (plain : ∀ name ∈ rt.fullToolkit.names, name ∉ metaToolNames → PlainName name)
    (h : prepareSelected host rt = .ok e) : Shadowed host rt e := by
  obtain ⟨⟨selected, status, reason⟩, -, h⟩ := bind_ok h
  cases h
  refine ⟨rfl, by simp, fun name known isMeta => ?_⟩
  refine List.mem_filter.mpr ⟨known, decide_eq_true fun direct => ?_⟩
  exact (mem_resolveDirectOriginalNames rt plain direct).2 isMeta

variable {l : Loading}

theorem loadRecord_loaded (h : ∀ name ∈ l.loadedNames, name ∉ metaToolNames)
    {record : ExposureToolRecord} (catalogued : record.name ∉ metaToolNames) :
    ∀ name ∈ (loadRecord rt l record).loadedNames, name ∉ metaToolNames := by
  unfold loadRecord
  cases rt.fullToolkit.get record.name with
  | none => exact h
  | some tool =>
    dsimp only
    split
    · exact h
    · intro name mem
      split at mem
      · exact h name mem
      · rcases List.mem_append.mp mem with mem | mem
        · exact h name mem
        · rw [List.mem_singleton.mp mem]
          exact catalogued

theorem foldl_loadRecord_loaded (records : List ExposureToolRecord)
    (h : ∀ name ∈ l.loadedNames, name ∉ metaToolNames)
    (catalogued : ∀ record ∈ records, record.name ∉ metaToolNames) :
    ∀ name ∈ (records.foldl (loadRecord rt) l).loadedNames, name ∉ metaToolNames := by
  induction records generalizing l with
  | nil => exact h
  | cons record records ih =>
    exact ih (loadRecord_loaded h (catalogued record List.mem_cons_self))
      fun other mem => catalogued other (List.mem_cons_of_mem _ mem)

theorem toolLoad_shadowed (h : Shadowed host rt e) (handles names : NameArgument) :
    Shadowed host rt (toolLoad rt e handles names).1 := by
  have catalogued : ∀ record ∈ (resolveRecords e handles names).1,
      record.name ∉ metaToolNames := by
    intro record mem
    have := mem_resolveRecords mem
    rw [h.records] at this
    exact (mem_buildRecords host this).2
  have loaded : ∀ name ∈ (toolLoad rt e handles names).1.loadedNames, name ∉ metaToolNames :=
    foldl_loadRecord_loaded _ h.loaded catalogued
  refine ⟨h.records, loaded, fun name known isMeta => ?_⟩
  refine List.mem_filter.mpr ⟨h.deferred name known isMeta, decide_eq_true fun mem => ?_⟩
  exact loaded name mem isMeta

theorem loadAll_shadowed (h : Shadowed host rt e) (calls : List (NameArgument × NameArgument)) :
    Shadowed host rt (loadAll rt e calls) := by
  induction calls generalizing e with
  | nil => exact h
  | cons call calls ih => exact ih (toolLoad_shadowed host h call.1 call.2)

end Shadowed

/-! ### When plans are exact -/

theorem ReplaysExactly.plain {host : ExposureHost} {rt : ToolExposureRuntime} {e : Exposure}
    (h : ReplaysExactly host rt e) (enabled : rt.config.enabled = true) :
    (∀ name ∈ rt.fullToolkit.names, name ∉ metaToolNames → PlainName name) ∧
      ∃ digest, catalogDigest host rt = .ok digest := by
  obtain ⟨snapshot, written, replays⟩ := h
  obtain ⟨-, digest, digested, -⟩ := (durablePlanSnapshot_ok host rt).mp written
  obtain ⟨e', replayed, -⟩ := replays rt.config rt.selector rt.score enabled
  obtain ⟨plan, read, -⟩ := bind_ok (show prepareReplayPlan host rt snapshot = .ok e' from replayed)
  exact ⟨plain_of_readReplayPlan host rt read, digest, digested⟩

/-! ### A toolkit with a tool named like a meta tool -/

def sampleTool (name : String) : Tool where
  name := name
  description := ""
  alwaysLoad := false
  deferByDefault := false
  searchHint := ""
  toolkitId := ""
  server := ""
  category := ""
  promptSpec := none
  providerSchema := fun _ => .none

def sampleExposureHost : ExposureHost where
  display := fun _ => ""
  sha256 := fun _ => "digest"
  repr := fun _ => ""
  className := fun _ => ""
  compactText := fun text => text
  errorName := fun _ => ""

/-- A runtime over `read` and another tool, whose selector chooses `read`. -/
def sampleRuntime (other : String) (differs : "read" ≠ other) : ToolExposureRuntime where
  config := ⟨5, 1, true, by decide, by decide⟩
  fullToolkit := ⟨[sampleTool "read", sampleTool other], by simpa [sampleTool] using differs⟩
  promptSections := []
  provider := "openai"
  selector := .ok (.dict [("tool_names", .list [.str "read"])])
  score := fun _ => 0

def sampleExposure (other : String) (differs : "read" ≠ other) : Exposure where
  plan :=
    { directToolNames := "read" :: metaToolNames
      deferredToolNames := [other]
      loadedToolNames := []
      selectorStatus := "selected"
      fallbackReason := "" }
  exposedToolkit := buildExposedToolkit (sampleRuntime other differs) ["read"]
  recordsByName := buildRecords sampleExposureHost (sampleRuntime other differs)
  loadedNames := []
  selectorUsed := true

end Unchain.Tools
