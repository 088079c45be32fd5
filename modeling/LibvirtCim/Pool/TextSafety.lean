import LibvirtCim.Device.TextSafety
import LibvirtCim.Pool.PoolXml

/-!
# Texts in pool documents

The documents of `pool_to_xml`: when they are well formed, and what is read from them. A
storage pool is read by the parser; a network has none, and its name is read from the node.
-/

open Framework LibvirtCim.Device

namespace LibvirtCim.Pool

/-! ### The texts of a pool -/

/-- The texts of a pool that are written as the contents of elements. -/
def contents (pool : VirtPool) : List String :=
  pool.id.toList ++
    match pool.info with
    | .disk disk => disk.path.toList
    | .net _ | .other => []

/-- The texts of a network that are written as attributes. -/
def netTexts (pool : NetPool) : List (Option String) :=
  [pool.addr, pool.netmask] ++
    (if pool.forwardMode = none then [] else [pool.forwardMode, pool.forwardDev]) ++
    if pool.ipStart = none ∨ pool.ipEnd = none then [] else [pool.ipStart, pool.ipEnd]

/-- The texts of a storage pool that are written as attributes. -/
def diskTexts (pool : DiskPool) : List (Option String) :=
  if pool.poolType = .dir then []
  else pool.devicePaths ++ [pool.host, pool.srcDir] ++
    if pool.adapter = none then [] else [pool.adapter, pool.portName, pool.nodeName]

/-- The texts of a pool that are written as attributes. -/
def texts (pool : VirtPool) : List (Option String) :=
  match pool.info with
  | .net net => netTexts net
  | .disk disk => diskTexts disk
  | .other => []

section WellFormed

variable {nodeContent : String → List Node}

theorem wellFormed_forwardXml (pool : NetPool) :
    (∀ node ∈ forwardXml pool, node.WellFormed) ↔
      (pool.forwardMode.isSome → OptText pool.forwardMode ∧ OptText pool.forwardDev) := by
  unfold forwardXml
  cases pool.forwardMode with
  | none => simp
  | some mode =>
    simp +decide [Node.wellFormed_elem, attrsWellFormed_prop_append, attrsWellFormed_optProp,
      OptText]

theorem wellFormed_dhcpXml (pool : NetPool) :
    (∀ node ∈ dhcpXml pool, node.WellFormed) ↔
      (pool.ipStart.isSome → pool.ipEnd.isSome → OptText pool.ipStart ∧ OptText pool.ipEnd) := by
  unfold dhcpXml
  cases pool.ipStart <;> cases pool.ipEnd <;>
    simp +decide [Node.wellFormed_elem, attrsWellFormed_prop_append, attrsWellFormed_prop]

theorem wellFormed_netPoolXml (id : Option String) (pool : NetPool) :
    (netPoolXml nodeContent id pool).WellFormed ↔
      (∀ s ∈ id, ContentFit nodeContent s) ∧ ∀ text ∈ netTexts pool, OptText text := by
  have hname : (xmlNewChild nodeContent "name" id).WellFormed ↔
      ∀ s ∈ id, ContentFit nodeContent s :=
    wellFormed_xmlNewChild (by decide) id
  rw [netPoolXml, Node.wellFormed_elem, List.forall_mem_append, List.forall_mem_append,
    wellFormed_forwardXml]
  simp only [List.forall_mem_cons, hname, Node.wellFormed_elem, wellFormed_dhcpXml]
  simp +decide [attrsWellFormed_prop_append, attrsWellFormed_prop, netTexts]
  cases pool.forwardMode <;> cases pool.ipStart <;> cases pool.ipEnd <;>
    simp [or_imp, forall_and] <;> tauto

theorem wellFormed_setDiskPoolSource (pool : DiskPool) :
    (setDiskPoolSource pool).WellFormed ↔
      (∀ text ∈ pool.devicePaths, OptText text) ∧ OptText pool.host ∧ OptText pool.srcDir ∧
        (pool.adapter.isSome →
          OptText pool.adapter ∧ OptText pool.portName ∧ OptText pool.nodeName) := by
  -- each group of children is well-formed by its own texts
  have hpaths : (∀ node ∈ pool.devicePaths.map fun path => Node.elem "device" (prop "path" path) [],
      node.WellFormed) ↔ ∀ text ∈ pool.devicePaths, OptText text := by
    simp +decide [Node.wellFormed_elem, attrsWellFormed_prop]
  have hhost := wellFormed_optChild (show XmlName "host" by decide)
    (show XmlName "name" by decide) pool.host
  have hdir := wellFormed_optChild (show XmlName "dir" by decide)
    (show XmlName "path" by decide) pool.srcDir
  -- the adapter's three texts are written only together
  have hadapter : (∀ node ∈ adapterXml pool, node.WellFormed) ↔ (pool.adapter.isSome →
      OptText pool.adapter ∧ OptText pool.portName ∧ OptText pool.nodeName) := by
    unfold adapterXml
    cases pool.adapter with
    | none => simp
    | some adapter =>
      simp +decide [Node.wellFormed_elem, attrsWellFormed_prop_append,
        attrsWellFormed_optProp_append, attrsWellFormed_optProp, OptText]
  have hname : XmlName "source" := by decide
  rw [setDiskPoolSource, Node.wellFormed_elem]
  simp only [List.forall_mem_append, hpaths, hhost, hdir, hadapter, iff_true_intro hname,
    iff_true_intro attrsWellFormed_nil, true_and, and_assoc]

theorem wellFormed_diskPoolXml {id : Option String} {pool : DiskPool} {doc : Node}
    (h : diskPoolXml nodeContent id pool = .ok doc) :
    doc.WellFormed ↔ (∀ s ∈ id, ContentFit nodeContent s) ∧
      (∀ s ∈ pool.path, ContentFit nodeContent s) ∧ ∀ text ∈ diskTexts pool, OptText text := by
  have hchild (name : String) (hname : XmlName name) (content : Option String) :
      (xmlNewChild nodeContent name content).WellFormed ↔ ∀ s ∈ content, ContentFit nodeContent s :=
    wellFormed_xmlNewChild hname content
  unfold diskPoolXml at h
  split at h
  · cases h
  · next type htype =>
    cases h
    -- the type is one of the words of the generator, none of which needs escaping
    have htext : XmlText type := by
      cases hcases : pool.poolType <;> rw [hcases] at htype <;> cases htype <;> decide
    have htypes : AttrsWellFormed [("type", type)] := by
      simp +decide [attrsWellFormed_cons, htext]
    rw [Node.wellFormed_elem, diskTexts]
    simp only [List.forall_mem_append, List.forall_mem_singleton, Node.wellFormed_elem,
      iff_true_intro htypes]
    -- a directory has no source, so the texts of one do not count
    by_cases hdir : pool.poolType = .dir
    · simp +decide [hdir, hchild]
    · simp +decide [hdir, hchild, wellFormed_setDiskPoolSource]
      cases pool.adapter <;> simp [or_imp, forall_and] <;> tauto

/-- **A pool document is well formed** if and only if its contents are parsed to nodes that
can be written, and its other texts can be. -/
theorem wellFormed_poolToXml {pool : VirtPool} {doc : Node}
    (h : poolToXml nodeContent pool = .ok doc) :
    doc.WellFormed ↔ (∀ s ∈ contents pool, ContentFit nodeContent s) ∧
      ∀ text ∈ texts pool, OptText text := by
  unfold poolToXml at h
  split at h
  · next net hinfo =>
    cases h
    simp [wellFormed_netPoolXml, contents, texts, hinfo]
  · next disk hinfo =>
    rw [wellFormed_diskPoolXml h]
    simp [contents, texts, hinfo, and_assoc, or_imp, forall_and]
  · cases h

end WellFormed

/-! ### Reading -/

/-- The texts of a pool are read from its document as they are: a storage pool by the
parser, the name of a network from its node. -/
def PoolReadBack (pool : VirtPool) (doc : Node) : Prop :=
  match pool.info with
  | .net _ => ∀ s ∈ pool.id, Reads (elems ["name"] doc.children) s
  | .disk disk => ∃ id read, getPoolFromXml doc = .ok { info := .disk read, id := some id } ∧
      (∀ s ∈ pool.id, id = s) ∧ (∀ s ∈ disk.path, read.path = some s) ∧
      (disk.poolType ≠ .dir → read.host = disk.host ∧
        read.devicePaths = disk.devicePaths.map fun path => some (path.getD ""))
  | .other => True

/-- The source of a storage pool, as it is read. A port or a node is written with the
adapter only. -/
def sourceBack (pool : DiskPool) : DiskPool where
  poolType := pool.poolType
  devicePaths := pool.devicePaths.map fun path => some (path.getD "")
  host := pool.host
  srcDir := pool.srcDir
  adapter := pool.adapter
  portName := if pool.adapter = none then none else pool.portName
  nodeName := if pool.adapter = none then none else pool.nodeName

theorem parseDiskSource_setDiskPoolSource (pool : DiskPool) :
    parseDiskSource (setDiskPoolSource pool) { poolType := pool.poolType } = sourceBack pool := by
  -- the paths are appended one after the other
  have hpaths (devs : List (Option String)) (s : SourceState) :
      (devs.map fun path =>
        Node.elem "device" (prop "path" path) []).foldlM parseDiskSourceChild s =
        .ok { s with devPaths := s.devPaths ++ devs.map fun path => some (path.getD "") } := by
    induction devs generalizing s with
    | nil => simp; rfl
    | cons dev devs ih =>
      have hdev : parseDiskSourceChild s (.elem "device" (prop "path" dev) []) =
          .ok { s with devPaths := s.devPaths ++ [some (dev.getD "")] } := by
        simp [parseDiskSourceChild]
      rw [List.map_cons, List.foldlM_cons, hdev]
      show List.foldlM parseDiskSourceChild _ _ = _
      rw [ih]
      simp
  -- host and directory are there or are left out, read back they are the same
  have hhost (s : SourceState) (hs : s.pool.host = none) :
      (optChild "host" "name" pool.host).foldlM parseDiskSourceChild s =
        .ok { s with pool := { s.pool with host := pool.host } } := by
    refine foldlM_optional (fun v => { s with pool := { s.pool with host := v } })
      (fun v => ?_) ?_ _
    · simp [parseDiskSourceChild]
    · rw [← hs]
  have hdir (s : SourceState) (hs : s.pool.srcDir = none) :
      (optChild "dir" "path" pool.srcDir).foldlM parseDiskSourceChild s =
        .ok { s with pool := { s.pool with srcDir := pool.srcDir } } := by
    refine foldlM_optional (fun v => { s with pool := { s.pool with srcDir := v } })
      (fun v => ?_) ?_ _
    · simp [parseDiskSourceChild]
    · rw [← hs]
  -- without an adapter its other two texts are lost
  have hadapter (s : SourceState) (hs : s.pool.adapter = none ∧ s.pool.portName = none ∧
      s.pool.nodeName = none) : (adapterXml pool).foldlM parseDiskSourceChild s =
        .ok { s with pool := { s.pool with
          adapter := pool.adapter
          portName := if pool.adapter = none then none else pool.portName
          nodeName := if pool.adapter = none then none else pool.nodeName } } := by
    obtain ⟨hadapter, hport, hnode⟩ := hs
    unfold adapterXml
    cases pool.adapter with
    -- the state has none of the three yet, so it is unchanged
    | none =>
      have hsame : { s.pool with adapter := none, portName := none, nodeName := none } =
          s.pool := by
        cases hpool : s.pool
        simp_all
      simp only [if_pos, hsame]
      rfl
    | some adapter => simp [parseDiskSourceChild]
  -- the four groups in the order they are written
  have hfold : (setDiskPoolSource pool).children.foldlM parseDiskSourceChild
      { pool := { poolType := pool.poolType } } = .ok
        { pool := { sourceBack pool with devicePaths := [] }
          devPaths := (sourceBack pool).devicePaths } :=
    foldlM_append_ok (foldlM_append_ok (foldlM_append_ok (hpaths _ _) (hhost _ rfl)) (hdir _ rfl))
      (hadapter _ ⟨rfl, rfl, rfl⟩)
  rw [parseDiskSource, hfold]

section Reading

variable {nodeContent : String → List Node}

/-- The storage pool that is read from a document. -/
theorem getPoolFromXml_diskPoolXml {id : Option String} {pool : DiskPool} {doc : Node}
    (h : diskPoolXml nodeContent id pool = .ok doc) :
    getPoolFromXml doc = .ok
      { info := .disk
          { (if pool.poolType = .dir then { poolType := .dir } else sourceBack pool) with
            path := some (pool.path.elim "" (contentText nodeContent)) }
        id := some (id.elim "" (contentText nodeContent)) } := by
  unfold diskPoolXml at h
  split at h
  · cases h
  · next type htype =>
    cases h
    -- the word of a type stands for that type when it is read
    have hback : diskPoolTypeOf type = pool.poolType := by
      cases hcases : pool.poolType <;> rw [hcases] at htype <;> cases htype <;> decide
    -- the children one by one: the name, the source, the target
    have hname (p : DiskPool) : parseDiskPoolChild (none, p) (xmlNewChild nodeContent "name" id) =
        (some (id.elim "" (contentText nodeContent)), p) := by
      simp [parseDiskPoolChild]
    have htarget (s : Option String × DiskPool) :
        parseDiskPoolChild s (.elem "target" [] [xmlNewChild nodeContent "path" pool.path]) =
          (s.1, { s.2 with path := some (pool.path.elim "" (contentText nodeContent)) }) := by
      simp [parseDiskPoolChild, parseDiskTarget]
    have hsource (name : Option String) :
        parseDiskPoolChild (name, { poolType := pool.poolType }) (setDiskPoolSource pool) =
          (name, sourceBack pool) := by
      rw [← parseDiskSource_setDiskPoolSource]
      simp [parseDiskPoolChild, setDiskPoolSource]
    have hparse : parseDiskPool (.elem "pool" [("type", type)]
        ([xmlNewChild nodeContent "name" id] ++
          (if pool.poolType = .dir then [] else [setDiskPoolSource pool]) ++
          [.elem "target" [] [xmlNewChild nodeContent "path" pool.path]])) =
        (some (id.elim "" (contentText nodeContent)),
          { (if pool.poolType = .dir then { poolType := .dir } else sourceBack pool) with
            path := some (pool.path.elim "" (contentText nodeContent)) }) := by
      -- a directory is written without its source
      unfold parseDiskPool
      by_cases hdir : pool.poolType = .dir
      · rw [hdir] at hback
        simp [hname, htarget, hdir, hback]
      · simp [hname, htarget, hsource, hdir, hback]
    unfold getPoolFromXml
    rw [if_pos (by simp), hparse]

/-- **Reading a pool.** The texts are read as they are if and only if the contents come back
from libxml2. -/
theorem poolReadBack_iff {pool : VirtPool} {doc : Node} (h : poolToXml nodeContent pool = .ok doc) :
    PoolReadBack pool doc ↔ ∀ s ∈ contents pool, Survives nodeContent s := by
  unfold poolToXml at h
  -- of a network, the name is all that is read back
  split at h
  · next net hinfo =>
    cases h
    have hnode : elems ["name"] (netPoolXml nodeContent pool.id net).children =
        [xmlNewChild nodeContent "name" pool.id] := by
      -- the forward element has another name
      have hforward : elems ["name"] (forwardXml net) = [] := by
        unfold forwardXml
        split <;> simp [elems]
      rw [netPoolXml, Node.children_elem, elems_append, elems_append, hforward]
      simp [elems, xmlNewChild]
    have hreads := reads_iff nodeContent
        (elems ["name"] (netPoolXml nodeContent pool.id net).children)
      "name" pool.id fun s hs => by rw [hnode, hs]
    simp only [PoolReadBack, contents, hinfo, List.append_nil, Option.mem_toList]
    exact hreads
  · next disk hinfo =>
    have hparse := getPoolFromXml_diskPoolXml h
    have hcontents : (∀ s ∈ contents pool, Survives nodeContent s) ↔
        (∀ s ∈ pool.id, Survives nodeContent s) ∧ ∀ s ∈ disk.path, Survives nodeContent s := by
      simp [contents, hinfo, or_imp, forall_and]
    rw [hcontents, PoolReadBack, hinfo]
    -- of a disk pool, the name and the path, and the source where there is one
    constructor
    · rintro ⟨id, read, hread, hid, hpath, -⟩
      obtain ⟨⟨⟩, ⟨⟩⟩ := VirtPool.mk.inj (Except.ok.inj (hparse.symm.trans hread))
      refine ⟨fun s hs => ?_, fun s hs => ?_⟩
      · have hback := hid s hs
        rw [hs] at hback
        exact hback
      · have hback := hpath s hs
        rw [hs] at hback
        exact Option.some.inj hback
    · rintro ⟨hid, hpath⟩
      refine ⟨_, _, hparse, ?_, ?_, ?_⟩
      · intro s hs
        rw [hs]
        exact hid s hs
      · intro s hs
        rw [hs]
        exact congrArg some (hpath s hs)
      -- the source is compared for pools that write one
      · intro hdir
        rw [if_neg hdir]
        exact ⟨rfl, rfl⟩
  · cases h

end Reading

/-! ### Safe documents -/

/-- The document is well formed, and the texts of the pool are read from it as they are. The first
is what a parser needs to accept it, the second what it needs to mean the same. -/
def TextSafe (pool : VirtPool) (doc : Node) : Prop :=
  doc.WellFormed ∧ PoolReadBack pool doc

/-- The document of a pool is safe if and only if its name and its path are plain texts, and
the others can be written. -/
theorem textSafe_poolToXml_iff {nodeContent : String → List Node}
    (hcontent : ReferencesParsed nodeContent) {pool : VirtPool} {doc : Node}
    (h : poolToXml nodeContent pool = .ok doc) :
    TextSafe pool doc ↔ (∀ s ∈ contents pool, PlainText s) ∧ ∀ text ∈ texts pool, OptText text := by
  rw [TextSafe, wellFormed_poolToXml h, poolReadBack_iff h]
  simp only [← hcontent.fit_and_survives_iff, forall_and]
  exact and_right_comm

section Safe

variable {nodeContent : String → List Node} {newUuid : String}

/-- **The texts of generated documents are safe** if and only if those that are contents of
elements are plain ones, and the others are made of XML characters. Attributes are escaped when
they are written and contents are not, so the two generators are followed to each text that they
insert (`textSafe_systemToXml_iff`, `textSafe_poolToXml_iff`). -/
theorem textSafe_iff (hcontent : ReferencesParsed nodeContent) (hnew : PlainText newUuid) :
    (∀ d doc, systemToXml nodeContent newUuid d = .ok doc →
      (Device.TextSafe d doc ↔
        (∀ s ∈ Device.contents d, PlainText s) ∧ OthersFit nodeContent d)) ∧
    (∀ pool doc, poolToXml nodeContent pool = .ok doc →
      (TextSafe pool doc ↔
        (∀ s ∈ contents pool, PlainText s) ∧ ∀ text ∈ texts pool, OptText text)) := by
  constructor
  · intro d doc h
    exact textSafe_systemToXml_iff hcontent hnew h
  · intro pool doc h
    exact textSafe_poolToXml_iff hcontent h

end Safe

/-! ### The entities that XML predefines -/

/-- What a reference to a predefined entity stands for; any other one has no text. -/
def predefined (name : List Char) : List Char :=
  if name = "amp".toList then ['&']
  else if name = "lt".toList then ['<']
  else if name = "gt".toList then ['>']
  else if name = "quot".toList then ['"']
  else if name = "apos".toList then ['\'']
  else []

/-- The text of a content, with the name of the reference that is being read. -/
def scanContent : Option (List Char) → List Char → List Char
  | _, [] => []
  | none, c :: cs => if c = '&' then scanContent (some []) cs else c :: scanContent none cs
  | some name, c :: cs =>
    if c = ';' then predefined name ++ scanContent none cs else scanContent (some (name ++ [c])) cs

/-- A parser of contents that knows the predefined entities. -/
def predefinedContent (content : String) : List Node :=
  textNodes (String.ofList (scanContent none content.toList))

theorem contentText_predefinedContent (content : String) :
    contentText predefinedContent content = String.ofList (scanContent none content.toList) :=
  textValues_textNodes _

theorem scanContent_plain {before : List Char} (h : '&' ∉ before) (rest : List Char) :
    scanContent none (before ++ rest) = before ++ scanContent none rest := by
  induction before with
  | nil => rfl
  | cons c cs ih =>
    rw [List.mem_cons, not_or] at h
    rw [List.cons_append, scanContent, if_neg (Ne.symm h.1), ih h.2]
    rfl

theorem scanContent_name {name : List Char} (h : ';' ∉ name) (read rest : List Char) :
    scanContent (some read) (name ++ rest) = scanContent (some (read ++ name)) rest := by
  induction name generalizing read with
  | nil => rw [List.append_nil, List.nil_append]
  | cons c cs ih =>
    rw [List.mem_cons, not_or] at h
    rw [List.cons_append, scanContent, if_neg (Ne.symm h.1), ih h.2, List.append_assoc]
    rfl

theorem length_predefined (name : List Char) : (predefined name).length ≤ 1 := by
  unfold predefined
  repeat' split
  all_goals simp

theorem referencesParsed_predefinedContent : ReferencesParsed predefinedContent where
  plain content h := by
    have hscan := scanContent_plain h []
    rw [List.append_nil, scanContent, List.append_nil] at hscan
    -- a text without a reference is scanned character by character
    rw [predefinedContent, hscan, String.ofList_toList]
  -- a reference is cut to what its name stands for, which is shorter
  reference before name after hbefore hname := by
    refine ⟨String.ofList (predefined name.toList), ?_, ?_⟩
    · have hlen := length_predefined name.toList
      rw [String.length_ofList]
      omega
    · have hscan : scanContent none (before ++ "&" ++ name ++ ";" ++ after).toList =
          before.toList ++ (predefined name.toList ++ scanContent none after.toList) := by
        simp only [String.toList_append, List.append_assoc]
        rw [scanContent_plain hbefore]
        show before.toList ++ scanContent (some []) (name.toList ++ ';' :: after.toList) = _
        rw [scanContent_name hname]
        rfl
      rw [contentText_predefinedContent, contentText_predefinedContent, hscan]
      apply String.toList_inj.mp
      simp
  -- a name that is not ended loses its characters
  unterminated before name hbefore hname := by
    have hscan : scanContent none (before ++ "&" ++ name).toList = before.toList := by
      simp only [String.toList_append, List.append_assoc]
      rw [scanContent_plain hbefore]
      show before.toList ++ scanContent (some []) name.toList = _
      rw [← List.append_nil name.toList, scanContent_name hname]
      exact List.append_nil _
    rw [contentText_predefinedContent, hscan, String.ofList_toList]
    omega

/-- A guest of a name. -/
def namedDomain (name : String) : Domain where
  type := .kvm
  name := some name
  uuid := some "4dea22b3-1d52-d8f3-2516-782e98ab3fa0"

/-- A directory as a pool. -/
def dirPool (path : String) : VirtPool where
  info := .disk { poolType := .dir, path := some path }
  id := some "images"

theorem textSafe_guest :
    ∃ doc poolDoc, systemToXml predefinedContent "" (namedDomain "guest") = .ok doc ∧
      poolToXml predefinedContent (dirPool "/srv/images") = .ok poolDoc ∧
      (Device.TextSafe (namedDomain "guest") doc ↔
        (∀ s ∈ Device.contents (namedDomain "guest"), PlainText s) ∧
          OthersFit predefinedContent (namedDomain "guest")) ∧
      (TextSafe (dirPool "/srv/images") poolDoc ↔
        (∀ s ∈ contents (dirPool "/srv/images"), PlainText s) ∧
          ∀ text ∈ texts (dirPool "/srv/images"), OptText text) := by
  have hnew : PlainText "" := by decide
  have hsafe := textSafe_iff referencesParsed_predefinedContent hnew
  -- both documents exist, so the equivalence speaks of something
  obtain ⟨doc, hxml⟩ : ∃ doc, systemToXml predefinedContent "" (namedDomain "guest") = .ok doc :=
    ⟨_, rfl⟩
  obtain ⟨poolDoc, hpool⟩ : ∃ doc, poolToXml predefinedContent (dirPool "/srv/images") = .ok doc :=
    ⟨_, rfl⟩
  exact ⟨doc, poolDoc, hxml, hpool, hsafe.1 _ doc hxml, hsafe.2 _ poolDoc hpool⟩

/-- A name with a reference does not come back, nor does a path with an `&`. -/
theorem not_textSafe :
    (∃ doc, systemToXml predefinedContent "" (namedDomain "R&amp;D") = .ok doc ∧
      ¬ Device.TextSafe (namedDomain "R&amp;D") doc) ∧
    (∃ doc, poolToXml predefinedContent (dirPool "/srv/R&D") = .ok doc ∧
      ¬ TextSafe (dirPool "/srv/R&D") doc) := by
  have hcontent := referencesParsed_predefinedContent
  have hnew : PlainText "" := by decide
  -- neither text comes back, the guest's as it is expanded, the path's as it is cut
  constructor
  · obtain ⟨doc, hxml⟩ :
        ∃ doc, systemToXml predefinedContent "" (namedDomain "R&amp;D") = .ok doc :=
      ⟨_, rfl⟩
    refine ⟨doc, hxml, fun hsafe => ?_⟩
    have hplain := ((textSafe_systemToXml_iff hcontent hnew hxml).mp hsafe).1
    have hname : PlainText "R&amp;D" := hplain _ List.mem_cons_self
    exact absurd hname (by decide)
  · obtain ⟨doc, hxml⟩ : ∃ doc, poolToXml predefinedContent (dirPool "/srv/R&D") = .ok doc :=
      ⟨_, rfl⟩
    refine ⟨doc, hxml, fun hsafe => ?_⟩
    have hplain := ((textSafe_poolToXml_iff hcontent hxml).mp hsafe).1
    have hpath : PlainText "/srv/R&D" := hplain _ (by simp [contents, dirPool])
    exact absurd hpath (by decide)

end LibvirtCim.Pool
