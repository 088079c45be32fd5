import LibvirtCim.Device.Parsed

/-!
# Controllers through the generator and back

What `parse_controller_device` makes of the element `controller_xml` writes for a device
it parsed. The number of queues is written under the name `queueus`, where the parser does
not look for it. The id is made from the name of the type as it stands in the element, and
the generator writes that name in lower case; the largest index is taken for none.
-/

open Framework

namespace LibvirtCim.Device

/-- The id of a controller whose type is written as the generator writes it. -/
def canonicalControllerId (cdev : ControllerDevice) : Option String :=
  (controllerProtocolTypeIDToStr cdev.type).map fun typeStr =>
    "controller:" ++ typeStr ++ ":" ++ toString cdev.index.toNat

/-- A type that has a name is read back from it. -/
theorem controllerType_back {type : ControllerType} {name : String}
    (h : controllerProtocolTypeIDToStr type = some name) :
    controllerProtocolTypeStrToID name = type ∧ type ≠ .unknown := by
  cases type <;> cases h <;> exact ⟨rfl, nofun⟩

/-- The attributes of a controller. -/
def controllerAttrs (cdev : ControllerDevice) (typeStr : String) : List (String × String) :=
  [("type", typeStr)] ++ (if cdev.index = controllerIndexNotSet then []
    else [("index", toString cdev.index.toNat)]) ++ optProp "model" cdev.model ++
    optProp "ports" cdev.ports ++ optProp "vectors" cdev.vectors

theorem lookup_controllerAttrs (cdev : ControllerDevice) (typeStr : String) :
    (controllerAttrs cdev typeStr).lookup "type" = some typeStr ∧
      (controllerAttrs cdev typeStr).lookup "index" =
        (if cdev.index = controllerIndexNotSet then none else some (toString cdev.index.toNat)) ∧
      (controllerAttrs cdev typeStr).lookup "model" = cdev.model ∧
      (controllerAttrs cdev typeStr).lookup "ports" = cdev.ports ∧
      (controllerAttrs cdev typeStr).lookup "vectors" = cdev.vectors := by
  unfold controllerAttrs
  by_cases h : cdev.index = controllerIndexNotSet <;> simp [h]

/-- The driver that is written says nothing to the parser. -/
theorem foldl_controllerChildren {s : ControllerDevice} (hqueues : s.queues = none)
    (haddress : s.address = []) (cdev : ControllerDevice) :
    (optChild "driver" "queueus" cdev.queues ++ deviceAddressXml cdev.address).foldl
        parseControllerChild s =
      { s with address := readBack cdev.address } := by
  -- the child for the queues has another name than the one that is read
  have hdriver : (optChild "driver" "queueus" cdev.queues).foldl parseControllerChild s = s := by
    cases s
    cases hqueues
    cases cdev.queues <;> rfl
  rw [List.foldl_append, hdriver, deviceAddressXml]
  -- without an address there is no element for one
  split
  · next hnil =>
    rw [hnil, readBack, List.map_nil, ← haddress]
    rfl
  · simp only [List.foldl_cons, parseControllerChild, Node.name_elem, if_true, haddress]
    rfl

/-- What is read from the element of a controller. -/
theorem parse_controllerXml {cdev : ControllerDevice} {typeStr : String}
    (htype : controllerProtocolTypeIDToStr cdev.type = some typeStr) :
    parseControllerDevice (.elem "controller" (controllerAttrs cdev typeStr)
        (optChild "driver" "queueus" cdev.queues ++ deviceAddressXml cdev.address)) =
      if cdev.index = controllerIndexNotSet then .error .reject
      else .ok
        { type := .controller
          dev := { cdev with queues := none, address := readBack cdev.address }
          id := canonicalControllerId cdev } := by
  obtain ⟨hback, hknown⟩ := controllerType_back htype
  obtain ⟨hlookup, hindex, hmodel, hports, hvectors⟩ := lookup_controllerAttrs cdev typeStr
  unfold parseControllerDevice
  simp only [getAttrValue, Node.attr_elem, hlookup, hback, if_neg hknown, hindex]
  -- the largest index stands for one that is missing
  by_cases hset : cdev.index = controllerIndexNotSet
  · simp only [if_pos hset]
  · simp only [if_neg hset, hmodel, hports, hvectors, Node.children_elem]
    rw [foldl_controllerChildren rfl rfl]
    simp only [scanU64_toString, Option.getD_some, canonicalControllerId, htype, Option.map_some]

/-! ### The round trip -/

/-- The element that is written comes back as the controller it is written for. -/
def ControllerComesBack (d : VirtDevice ControllerDevice) : Prop :=
  ∃ n, controllerXmlOf d.dev = .ok [n] ∧ parseControllerDevice n = .ok d

/-- **Controllers through the generator and back.** A device that `parse_controller_device`
produces comes back if and only if it has no number of queues, no address key has two values, its
index is not the largest one, and its type was written in lower case. The last of these comes from
the id, which keeps the type as it was spelled, while the element has the generator's spelling. -/
theorem controller_comesBack_iff {cnode : Node} {d : VirtDevice ControllerDevice}
    (h : parseControllerDevice cnode = .ok d) :
    ControllerComesBack d ↔ d.dev.queues = none ∧ readBack d.dev.address = d.dev.address ∧
      d.dev.index ≠ controllerIndexNotSet ∧ d.id = canonicalControllerId d.dev := by
  -- the type was read, so it has a name to be written by
  obtain ⟨hctype, _, hdtype, hknown, -⟩ := parseControllerDevice_ok h
  rw [hdtype] at hknown
  obtain ⟨typeStr, htype, -⟩ := controllerProtocolTypeIDToStr_StrToID hknown
  rw [← hdtype] at htype
  have hxml : controllerXmlOf d.dev = .ok [.elem "controller" (controllerAttrs d.dev typeStr)
      (optChild "driver" "queueus" d.dev.queues ++ deviceAddressXml d.dev.address)] := by
    rw [controllerXmlOf, htype]
    rfl
  have hparse := parse_controllerXml htype
  obtain ⟨_, dev, id⟩ := d
  cases hctype
  dsimp only at hxml hparse
  constructor
  -- what is read of the element has the generator's spelling in its id
  · rintro ⟨n, hn, hback⟩
    cases hxml.symm.trans hn
    rw [hparse] at hback
    split at hback
    · cases hback
    · next hset =>
      obtain ⟨-, hdev, hid⟩ := VirtDevice.mk.inj (Except.ok.inj hback)
      exact ⟨congrArg ControllerDevice.queues hdev.symm, congrArg ControllerDevice.address hdev,
        hset, hid.symm⟩
  · rintro ⟨hqueues, haddress, hset, hid⟩
    refine ⟨_, hxml, ?_⟩
    dsimp only at hqueues haddress hset hid
    rw [hparse, if_neg hset, ← hid, haddress, ← hqueues]

/-- A controller with a driver and an address. -/
def scsiController (typeStr : String) (driver : List Node) : Node :=
  .elem "controller" [("type", typeStr), ("index", "0"), ("model", "virtio-scsi")]
    (driver ++ [.elem "address" [("type", "pci"), ("slot", "0x05")] []])

/-- The device of one without a driver. -/
def scsiDevice : VirtDevice ControllerDevice where
  type := .controller
  dev :=
    { type := .scsiSsa, index := 0, model := some "virtio-scsi"
      address := [("type", "pci"), ("slot", "0x05")] }
  id := some "controller:scsi:0"

theorem controller_comesBack_scsiDevice :
    ControllerComesBack scsiDevice ↔ scsiDevice.dev.queues = none ∧
      readBack scsiDevice.dev.address = scsiDevice.dev.address ∧
      scsiDevice.dev.index ≠ controllerIndexNotSet ∧
      scsiDevice.id = canonicalControllerId scsiDevice.dev :=
  have h : parseControllerDevice (scsiController "scsi" []) = .ok scsiDevice := rfl
  controller_comesBack_iff h

/-- Every device that an element is parsed to comes back. -/
def ControllerRoundTrips (cnode : Node) : Prop :=
  ∀ d, parseControllerDevice cnode = .ok d → ControllerComesBack d

/-- The number of queues is lost. -/
theorem not_controller_roundTrips :
    ¬ ControllerRoundTrips (scsiController "scsi" [.elem "driver" [("queues", "4")] []]) := by
  intro h
  obtain ⟨n, hxml, hback⟩ := h _ rfl
  cases hxml
  exact absurd hback (by decide)

end LibvirtCim.Device
