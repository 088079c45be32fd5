import LibvirtCim.Association.ElementAllocatedFromPool

/-!
# The ids of pools and devices

`get_pool_id` and `pool_member_of` join the class of a pool and its name with a slash;
`res_type_from_pool_id`, `name_from_pool_id` and `get_pool_by_name` take the id apart again, each in
its own way. The types of input, controller and graphics pools are looked for anywhere in the id, in
an order of their own, so the name of a pool can decide its type (`poolIdDecoded_iff`).

`get_fq_devid` and `parse_fq_devid` are inverse to each other.
-/

open Framework LibvirtCim.Device LibvirtCim.Rasd LibvirtCim.Service LibvirtCim.Pool

namespace LibvirtCim.Association

/-! ### Parts of a text with a separator -/

section Separator

variable {α : Type} {x : α} {p a b : List α}

/-- A prefix without the separator is one of the text in front of it. -/
theorem prefix_append_cons_iff (h : x ∉ p) : p <+: a ++ x :: b ↔ p <+: a := by
  refine ⟨fun hp => ?_, fun hp => hp.trans (List.prefix_append a _)⟩
  rcases List.prefix_or_prefix_of_prefix hp (List.prefix_append a _) with hpa | hap
  · exact hpa
  · obtain ⟨t, rfl⟩ := hap
    cases t with
    | nil =>
      rw [List.append_nil]
    | cons y t =>
      obtain ⟨rfl, -⟩ := List.cons_prefix_cons.mp ((List.prefix_append_right_inj a).mp hp)
      exact absurd (List.mem_append_right a List.mem_cons_self) h

/-- A part without the separator is in front of it or behind it. -/
theorem infix_append_cons_iff (h : x ∉ p) : p <:+: a ++ x :: b ↔ p <:+: a ∨ p <:+: b := by
  induction a with
  | nil =>
    rw [List.nil_append, List.infix_cons_iff, List.infix_nil]
    refine or_congr_left ⟨fun hp => ?_, fun hp => hp ▸ List.nil_prefix⟩
    have := (prefix_append_cons_iff h (a := [])).mp hp
    exact List.prefix_nil.mp this
  | cons y a ih =>
    rw [List.cons_append, List.infix_cons_iff, List.infix_cons_iff, ih, ← List.cons_append,
      prefix_append_cons_iff h, or_assoc]

end Separator

/-! ### Pools -/

/-- The type of a pool; the types without pools share one entry. -/
def poolKind : ResType → DevKind
  | .net => .net
  | .disk => .disk
  | .mem => .mem
  | .proc => .proc
  | .graphics => .graphics
  | .input => .input
  | .controller => .controller
  | .unset | .unknown | .console | .emu => .console

/-- The value that `res_type_from_pool_id` returns. -/
def resTypeOf (kind : Option DevKind) : ResType := kind.elim .unknown DevKind.resType

/-- What there is to be looked up: the pool of a name, of a type that has pools. -/
def poolOfType (view : PoolView) (t : ResType) (name : String) : Option PoolInstance :=
  if poolKind t = .console then none else poolNamed view (poolKind t) name

/-- Every decoder takes the id as the pool of the type with the name. -/
structure PoolIdDecoded (view : PoolView) (t : ResType) (id name : String) : Prop where
  type : resTypeOf (resTypeFromPoolId id) = t
  nameOf : nameFromPoolId id = some name
  pool : getPoolByName view id = poolOfType view t name

/-- When the type is not taken from the name. Four types are told by the start of an id, the
others by their name anywhere in it, one after the other; so the name of the pool must not have
one of those that come first. -/
def PoolIdFits (t : ResType) (name : String) : Prop :=
  match t with
  | .net | .disk | .mem | .proc | .graphics => True
  | .input => strstr name "GraphicsPool" = false
  | .controller => strstr name "GraphicsPool" = false ∧ strstr name "InputPool" = false
  | .unknown =>
    strstr name "GraphicsPool" = false ∧ strstr name "InputPool" = false ∧
      strstr name "ControllerPool" = false
  | .unset | .console | .emu => False

theorem toList_getPoolId (kind : DevKind) (name : String) :
    (getPoolId kind name).toList = (poolClass kind).toList ++ '/' :: name.toList := by
  simp [getPoolId]

theorem startsWith_getPoolId {kind : DevKind} {name start : String} (h : '/' ∉ start.toList) :
    Pool.startsWith (getPoolId kind name) start = Pool.startsWith (poolClass kind) start := by
  rw [Pool.startsWith, Pool.startsWith, Bool.eq_iff_iff, List.isPrefixOf_iff_prefix,
    List.isPrefixOf_iff_prefix, toList_getPoolId, prefix_append_cons_iff h]

theorem strstr_getPoolId {kind : DevKind} {name part : String} (h : '/' ∉ part.toList) :
    strstr (getPoolId kind name) part = (strstr (poolClass kind) part || strstr name part) := by
  rw [strstr, strstr, strstr, ← Bool.decide_or, toList_getPoolId]
  exact decide_eq_decide.mpr (infix_append_cons_iff h)

/-- The type that the id of a pool is taken for. -/
def kindOfId : DevKind → String → Option DevKind
  | .input, name => if strstr name "GraphicsPool" then some .graphics else some .input
  | .controller, name =>
    if strstr name "GraphicsPool" then some .graphics
    else if strstr name "InputPool" then some .input else some .controller
  | .console, name =>
    if strstr name "GraphicsPool" then some .graphics
    else if strstr name "InputPool" then some .input
    else if strstr name "ControllerPool" then some .controller else none
  | kind, _ => some kind

/-- **The type that is read from an id.** -/
theorem resTypeFromPoolId_getPoolId (kind : DevKind) (name : String) :
    resTypeFromPoolId (getPoolId kind name) = kindOfId kind name := by
  rw [resTypeFromPoolId, startsWith_getPoolId (by decide), startsWith_getPoolId (by decide),
    startsWith_getPoolId (by decide), startsWith_getPoolId (by decide),
    strstr_getPoolId (by decide),
    strstr_getPoolId (by decide), strstr_getPoolId (by decide)]
  cases kind <;> rfl

theorem nameFromPoolId_getPoolId (kind : DevKind) (name : String) :
    nameFromPoolId (getPoolId kind name) = some name := by
  have hclass : '/' ∉ (poolClass kind).toList := by
    cases kind <;> decide
  have hdrop :
      ((poolClass kind).toList ++ '/' :: name.toList).dropWhile (fun c => decide (c ≠ '/')) =
      '/' :: name.toList := by
    rw [List.dropWhile_append_of_pos, List.dropWhile_cons_of_neg (by simp)]
    intro c hc
    exact decide_eq_true fun h => hclass (h ▸ hc)
  rw [nameFromPoolId, toList_getPoolId, hdrop]
  exact congrArg some (String.ofList_toList)

/-- The type is kept, if it is not taken from the name. -/
theorem resTypeOf_kindOfId_iff (t : ResType) (name : String) :
    resTypeOf (kindOfId (poolKind t) name) = t ↔ PoolIdFits t name := by
  cases t with
  | net | disk | mem | proc | graphics => exact iff_of_true rfl trivial
  | input =>
    rw [PoolIdFits, poolKind, kindOfId]
    cases strstr name "GraphicsPool" <;> decide
  | controller =>
    rw [PoolIdFits, poolKind, kindOfId]
    cases strstr name "GraphicsPool" <;> cases strstr name "InputPool" <;> decide
  | unknown =>
    rw [PoolIdFits, poolKind, kindOfId]
    cases strstr name "GraphicsPool" <;> cases strstr name "InputPool" <;>
      cases strstr name "ControllerPool" <;> decide
  | unset | console | emu =>
    -- an id without a pool is of no type, or of one that has a pool
    refine iff_of_false ?_ not_false
    rw [poolKind, kindOfId]
    cases strstr name "GraphicsPool" <;> cases strstr name "InputPool" <;>
      cases strstr name "ControllerPool" <;> decide

theorem kindOfId_ne_console (kind : DevKind) (name : String) :
    kindOfId kind name ≠ some .console := by
  cases kind with
  | net | disk | mem | proc | graphics => exact nofun
  | input | controller | console =>
    rw [kindOfId]
    cases strstr name "GraphicsPool" <;> cases strstr name "InputPool" <;>
      cases strstr name "ControllerPool" <;> decide

/-- A type is read as its pool, or as none where it has no pool. -/
theorem eq_of_resTypeOf {k : Option DevKind} (hk : k ≠ some .console) :
    k = if poolKind (resTypeOf k) = .console then none else some (poolKind (resTypeOf k)) := by
  cases k with
  | none => rfl
  | some kind =>
    cases kind with
    | console => exact absurd rfl hk
    | _ => rfl

/-- The pool is looked up under its type and name, if the type is kept. -/
theorem getPoolByName_of_type (view : PoolView) {t : ResType} {name : String} (hne : name ≠ "")
    (hline : '\n' ∉ name.toList) (htype : resTypeOf (kindOfId (poolKind t) name) = t) :
    getPoolByName view (getPoolId (poolKind t) name) = poolOfType view t name := by
  have hne' : name.toList ≠ [] := fun h => hne (String.toList_eq_nil_iff.mp h)
  have hkind := eq_of_resTypeOf (kindOfId_ne_console (poolKind t) name)
  rw [htype, ← resTypeFromPoolId_getPoolId] at hkind
  by_cases hconsole : poolKind t = .console
  · rw [if_pos hconsole] at hkind
    rw [poolOfType, if_pos hconsole, getPoolByName_eq, hkind]
    rfl
  · rw [if_neg hconsole] at hkind
    rw [poolOfType, if_neg hconsole]
    exact getPoolByName_getPoolId hkind hne' hline

/-- **When an id of a pool is decoded to what it was made of.** -/
theorem poolIdDecoded_iff (view : PoolView) (t : ResType) {name : String} (hne : name ≠ "")
    (hline : '\n' ∉ name.toList) :
    PoolIdDecoded view t (getPoolId (poolKind t) name) name ↔ PoolIdFits t name := by
  rw [← resTypeOf_kindOfId_iff]
  refine ⟨fun h => ?_, fun htype => ⟨?_, nameFromPoolId_getPoolId _ _, ?_⟩⟩
  · rw [← resTypeFromPoolId_getPoolId]
    exact h.type
  · rw [resTypeFromPoolId_getPoolId]
    exact htype
  · exact getPoolByName_of_type view hne hline htype

/-- **An id of `pool_member_of` is the id of a pool**, and decoded to it. -/
theorem poolIdDecoded_of_poolMemberOf {host : PoolHost} {kind : DevKind} {id poolid : String}
    (h : poolMemberOf host kind id = .ok (some poolid)) :
    ∃ name, poolid = getPoolId kind name ∧
      PoolIdDecoded (poolView host) kind.resType poolid name := by
  obtain ⟨pool, hpool, rfl, rfl⟩ := exists_pool_of_poolMemberOf h
  obtain ⟨hconsole, htype, -⟩ := getPoolByName_id hpool
  have hkind : poolKind pool.kind.resType = pool.kind := by
    cases pool.kind <;> rfl
  have hnamed : poolNamed (poolView host) pool.kind pool.name = some pool := by
    rw [getPoolByName_eq, htype, Option.bind_some] at hpool
    obtain ⟨name, -, hname⟩ := Option.bind_eq_some_iff.mp hpool
    obtain ⟨-, rfl, -⟩ := kind_and_name_of_poolNamed hname
    exact hname
  refine ⟨pool.name, rfl, ?_, nameFromPoolId_getPoolId _ _, ?_⟩
  · rw [htype]
    rfl
  · rw [hpool, poolOfType, hkind, if_neg hconsole, hnamed]

/-! ### Devices -/

/-- **The id of a device is parsed to what it was made of.** -/
theorem parseFqDevid_of_line {host devid : String} (hhost : host ≠ "") (hslash : '/' ∉ host.toList)
    (hdevid : devid ≠ "") (hline : '\n' ∉ devid.toList) :
    parseFqDevid (getFqDevid host (some devid)) = some (host, devid) := by
  have hhost' : host.toList ≠ [] := fun h => hhost (String.toList_eq_nil_iff.mp h)
  have hdevid' : devid.toList ≠ [] := fun h => hdevid (String.toList_eq_nil_iff.mp h)
  have hsplit : (getFqDevid host (some devid)).toList = host.toList ++ '/' :: devid.toList := by
    simp [getFqDevid, formatStr]
  rw [parseFqDevid, hsplit, scanUpTo_append hhost' hslash]
  simp [scanLit, scanUpTo_of_not_mem hdevid' hline]

/-- Ids of pools and devices are decoded to what they were made of. -/
structure IdsDecoded (view : PoolView) (t : ResType) (name : String) : Prop where
  pool : PoolIdDecoded view t (getPoolId (poolKind t) name) name
  member : ∀ (host : PoolHost) (kind : DevKind) (id poolid : String),
    poolMemberOf host kind id = .ok (some poolid) → ∃ name, poolid = getPoolId kind name ∧
      PoolIdDecoded (poolView host) kind.resType poolid name
  device : ∀ host devid : String, host ≠ "" → '/' ∉ host.toList → devid ≠ "" →
    '\n' ∉ devid.toList → parseFqDevid (getFqDevid host (some devid)) = some (host, devid)

/-- **When the ids are decoded**, those of pools and those of devices. The type of a pool is found
by searching its id for the names of types, so the name of the pool must not have one of those
that are searched before its own (`poolIdDecoded_iff`); the ids of devices are parsed as they were
made (`parseFqDevid_of_line`). -/
theorem idsDecoded_iff (view : PoolView) (t : ResType) {name : String} (hne : name ≠ "")
    (hline : '\n' ∉ name.toList) : IdsDecoded view t name ↔ PoolIdFits t name := by
  rw [← poolIdDecoded_iff view t hne hline]
  refine ⟨IdsDecoded.pool, fun h => ⟨h, ?_, ?_⟩⟩
  · intro _ _ _ _ hmember
    exact poolIdDecoded_of_poolMemberOf hmember
  · intro _ _ hhost hslash hdevid hline
    exact parseFqDevid_of_line hhost hslash hdevid hline

/-- A host without networks and storage. -/
def noPools : PoolView where
  networkNamed _ := false
  activeNetworks := some []
  activeStorage := some []

/-- The pool of a disk may have the name of another pool's class. -/
theorem idsDecoded_disk : IdsDecoded noPools .disk "a/b: GraphicsPool" :=
  (idsDecoded_iff noPools .disk (by decide) (by decide)).mpr trivial

/-- The pool of an input device may not. -/
theorem not_idsDecoded_input : ¬ IdsDecoded noPools .input "GraphicsPool" := by
  intro h
  have htype : resTypeOf (resTypeFromPoolId (getPoolId (poolKind .input) "GraphicsPool")) =
      .graphics := by decide +kernel
  rw [h.pool.type] at htype
  exact ResType.noConfusion htype

end LibvirtCim.Association
