import LibvirtCim.Common.Basic
import LibvirtCim.Framework.Uri

/-!
# The URI of a migration

`get_msd_values` of `Virt_VSMigrationService.c` collects the options of a migration and `dest_uri`
puts the URI of the destination together. With the transport `tls` the parameter `no_verify` is put
behind a slash of its own and no separator follows it, so the path of `qemu` is not the one that is
asked for and a second parameter is part of the first. Nothing is escaped and no brackets are put
around an address with colons, so a destination that is no host as a URI writes one gives a URI of
another host, or none.

`uriExact_iff` says when the URI is made of the parts that are requested. What is read from a URI
is that of `Framework.Uri`, with the host and the parameters decoded.
-/

open Framework

namespace LibvirtCim.Migration

/-! ### The code -/

/-- `CIM_MIGRATE_URI_*`. -/
def uriSsh : UInt16 := 2
def uriTls : UInt16 := 3
def uriTlsStrict : UInt16 := 4
def uriTcp : UInt16 := 5
def uriUnix : UInt16 := 32768

/-- The hypervisor of a class. -/
def uriPrefix (cn : String) : Option String :=
  if startsWith cn "Xen" then some "xen"
  else if startsWith cn "KVM" then some "qemu"
  else none

/-- The name of a transport. -/
def tport (transport : UInt16) : Option String :=
  if transport = uriSsh then some "ssh"
  else if transport = uriTls ∨ transport = uriTlsStrict then some "tls"
  else if transport = uriUnix then some "unix"
  else if transport = uriTcp then some "tcp"
  else none

/-- The parameter of a transport. -/
def transportParam (transport : UInt16) : String :=
  if transport = uriTls then "?no_verify=1" else ""

/-- `dest_uri`. -/
def destUri (cn dest : String) (destParams : Option String) (transport : UInt16) :
    Option String := do
  let pre ← uriPrefix cn
  let t ← tport transport
  let param := transportParam transport
  let base :=
    if pre = "xen" then pre ++ "+" ++ t ++ "://" ++ dest
    else pre ++ "+" ++ t ++ "://" ++ dest ++ "/system"
  let uri := if param ≠ "" then base ++ "/" ++ param else base
  match destParams with
  | none => some uri
  | some params => if param ≠ "" then some (uri ++ params) else some (uri ++ "?" ++ params)

/-- The options of a migration: the class of the reference, the destination, the properties
`MigrationType` and `TransportType` of the settings, the argument `MigrationWithoutRootKey`, and the
key file of the configuration. -/
structure UriRequest where
  cn : String
  destination : String
  migrationType : Option UInt16
  transportType : Option UInt16
  withoutRootKey : Bool
  tmpKeyfile : Option String

/-- `get_migration_type`: live by default, from 1 to 4. -/
def getMigrationType (req : UriRequest) : Option UInt16 :=
  let type := req.migrationType.getD 2
  if type < 1 ∨ type > 4 then none else some type

/-- `get_migration_uri`. -/
def getMigrationUri (req : UriRequest) : UInt16 := req.transportType.getD uriSsh

/-- `get_msd_values` up to the connection: the URI it connects to. -/
def msdUri (req : UriRequest) : Option String := do
  let _ ← getMigrationType req
  let destParams ←
    if req.withoutRootKey then req.tmpKeyfile.map fun keyfile => some ("keyfile=" ++ keyfile)
    else some none
  destUri req.cn req.destination destParams (getMigrationUri req)

/-! ### What is requested -/

/-- The path of a hypervisor: the root, which may be left out, or the system instance. -/
def IsPathOf (pre : String) (path : List Char) : Prop :=
  if pre = "xen" then path = [] ∨ path = ['/'] else path = "/system".toList

/-- The parameters that are requested. -/
def requestedParams (req : UriRequest) : List (List Char) :=
  (if getMigrationUri req = uriTls then ["no_verify=1".toList] else []) ++
    (if req.withoutRootKey then
      (req.tmpKeyfile.map fun keyfile => "keyfile=".toList ++ keyfile.toList).toList else [])

/-- The URI has the scheme, the host, the path and the parameters that are requested. -/
structure MadeOf (req : UriRequest) (pre t : String) (uri : UriParts) : Prop where
  scheme : uri.scheme = (pre ++ "+" ++ t).toList
  host : uri.host = req.destination.toList
  path : IsPathOf pre uri.path
  params : uri.params.Perm (requestedParams req)

/-- There is no URI, or it is the one that is requested. -/
def UriExact (req : UriRequest) : Prop :=
  ∀ uri, msdUri req = some uri → ∃ pre t parts, uriPrefix req.cn = some pre ∧
    tport (getMigrationUri req) = some t ∧ splitUri uri.toList = some parts ∧
    MadeOf req pre t parts

/-- The options that no URI is made of. -/
def Refused (req : UriRequest) : Prop :=
  getMigrationType req = none ∨ uriPrefix req.cn = none ∨ tport (getMigrationUri req) = none ∨
    req.withoutRootKey = true ∧ req.tmpKeyfile = none

/-- A destination that is a host as a URI writes it: a name, or an address in brackets. -/
def DestinationFits (req : UriRequest) : Prop :=
  isHost req.destination.toList = true ∧ '%' ∉ req.destination.toList

/-- A key file whose name may stand in a query as it is. -/
def KeyfileFits (req : UriRequest) : Prop :=
  req.withoutRootKey = true → ∀ keyfile, req.tmpKeyfile = some keyfile →
    uriText isQueryExtra keyfile.toList = true ∧ '%' ∉ keyfile.toList ∧ '&' ∉ keyfile.toList

/-- When the URI is the one that is requested. The destination has to be a host by itself. With
TLS a slash stands behind the path, which only the empty one of Xen allows, and a key would be
joined to the parameter before it. And the name of the key file must be read as it stands. -/
def UriFits (req : UriRequest) : Prop :=
  Refused req ∨
    DestinationFits req ∧
    (getMigrationUri req = uriTls → uriPrefix req.cn = some "xen" ∧ req.withoutRootKey = false) ∧
    KeyfileFits req

/-! ### The URI that is put together -/

/-- The parameter for the key, where one is asked for. -/
def keyParam (req : UriRequest) : Option (List Char) :=
  if req.withoutRootKey then
    req.tmpKeyfile.map fun keyfile => "keyfile=".toList ++ keyfile.toList
  else none

/-- What is put behind the host in front of the query. -/
def uriPath (req : UriRequest) (pre : String) : List Char :=
  (if pre = "xen" then [] else "/system".toList) ++
    if getMigrationUri req = uriTls then ['/'] else []

/-- What is put behind the path. -/
def uriTail (req : UriRequest) : List Char :=
  if getMigrationUri req = uriTls then '?' :: ("no_verify=1".toList ++ (keyParam req).getD [])
  else (keyParam req).elim [] fun param => '?' :: param

/-- The parts of the URI of a request that is not refused, put together. -/
theorem msdUri_eq {req : UriRequest} (h : ¬ Refused req) :
    ∃ pre t uri, uriPrefix req.cn = some pre ∧ tport (getMigrationUri req) = some t ∧
      msdUri req = some uri ∧
      uri.toList = (pre ++ "+" ++ t).toList ++ ':' :: '/' :: '/' ::
        (req.destination.toList ++ (uriPath req pre ++ uriTail req)) := by
  simp only [Refused, not_or, not_and] at h
  obtain ⟨htype, hpre, ht, hkey⟩ := h
  -- what was not refused: a type, a prefix, a transport and, for the key, a file
  obtain ⟨type, htype⟩ := Option.ne_none_iff_exists'.mp htype
  obtain ⟨pre, hpre⟩ := Option.ne_none_iff_exists'.mp hpre
  obtain ⟨t, ht⟩ := Option.ne_none_iff_exists'.mp ht
  refine ⟨pre, t, ?_⟩
  have htport : ∀ transport, getMigrationUri req = transport → tport transport = some t :=
    fun _ heq => heq ▸ ht
  -- the branches of the text: the key, the transport and the hypervisor
  by_cases hroot : req.withoutRootKey = true
  · obtain ⟨keyfile, hkeyfile⟩ := Option.ne_none_iff_exists'.mp (hkey hroot)
    by_cases htls : getMigrationUri req = uriTls <;> by_cases hxen : pre = "xen" <;>
      simp [msdUri, htype, hroot, hkeyfile, destUri, hpre, htport, transportParam, htls, hxen,
        uriPath, uriTail, keyParam]
  · by_cases htls : getMigrationUri req = uriTls <;> by_cases hxen : pre = "xen" <;>
      simp [msdUri, htype, hroot, destUri, hpre, htport, transportParam, htls, hxen, uriPath,
        uriTail, keyParam]

theorem msdUri_refused {req : UriRequest} (h : Refused req) : msdUri req = none := by
  rw [msdUri]
  rcases h with htype | hpre | ht | ⟨hroot, hkey⟩
  · rw [htype]
    rfl
  · simp [destUri, hpre]
  · simp [destUri, ht]
  · simp [hroot, hkey]

/-- A hypervisor and a transport are no reason to end a scheme. -/
theorem colon_not_mem_scheme {req : UriRequest} {pre t : String}
    (hpre : uriPrefix req.cn = some pre)
    (ht : tport (getMigrationUri req) = some t) : ':' ∉ (pre ++ "+" ++ t).toList := by
  have hpre' : pre = "xen" ∨ pre = "qemu" := by
    rw [uriPrefix] at hpre
    split_ifs at hpre
    · exact .inl (Option.some.inj hpre).symm
    · exact .inr (Option.some.inj hpre).symm
  have ht' : t = "ssh" ∨ t = "tls" ∨ t = "unix" ∨ t = "tcp" := by
    rw [tport] at ht
    split_ifs at ht <;> simp [← Option.some.inj ht]
  rcases hpre' with rfl | rfl <;> rcases ht' with rfl | rfl | rfl | rfl <;> decide

/-- There is a query behind the path, or nothing. -/
theorem uriTail_cases (req : UriRequest) :
    uriTail req = [] ∨ ∃ cs, uriTail req = '?' :: cs := by
  rw [uriTail]
  split
  · exact .inr ⟨_, rfl⟩
  · cases keyParam req with
    | none => exact .inl rfl
    | some param => exact .inr ⟨param, rfl⟩

theorem uriPath_cases (req : UriRequest) (pre : String) :
    uriPath req pre = [] ∨ uriPath req pre = "/system".toList ∨ uriPath req pre = ['/'] ∨
      uriPath req pre = "/system/".toList := by
  rw [uriPath]
  split <;> split <;> simp

/-- A host ends where the path or the query begins. -/
theorem stop_uriPath (req : UriRequest) (pre : String) :
    ∀ c ∈ (uriPath req pre ++ uriTail req).head?, isAuthorityChar c = false := by
  rcases uriPath_cases req pre with hpath | hpath | hpath | hpath <;>
    rcases uriTail_cases req with htail | ⟨cs, htail⟩ <;>
      simp [hpath, htail, isAuthorityChar]

/-- The parts that the URI is made of, if the host is one. -/
theorem splitHierarchy_uri (req : UriRequest) (pre : String) (scheme : List Char)
    (hhost : isHost req.destination.toList = true) :
    splitHierarchy scheme (req.destination.toList ++ (uriPath req pre ++ uriTail req)) =
      (splitQuery (uriTail req)).map fun query =>
        ⟨scheme, ⟨none, req.destination.toList, none⟩, uriPath req pre, query⟩ := by
  refine splitHierarchy_joined hhost (stop_uriPath req pre) ?_ ?_ ?_
  · rcases uriPath_cases req pre with hpath | hpath | hpath | hpath <;> rw [hpath] <;>
      exact List.all_eq_true.mp rfl
  · rcases uriPath_cases req pre with hpath | hpath | hpath | hpath <;> rw [hpath] <;> decide
  · rcases uriTail_cases req with htail | ⟨cs, htail⟩ <;> simp [htail, isPathChar]

/-- The path is the requested one, unless `qemu` gets a slash more. -/
theorem isPathOf_uriPath_iff (req : UriRequest) (pre : String) :
    IsPathOf pre (uriPath req pre) ↔ (getMigrationUri req = uriTls → pre = "xen") := by
  rw [IsPathOf, uriPath]
  by_cases hxen : pre = "xen" <;> by_cases htls : getMigrationUri req = uriTls <;>
    simp [hxen, htls]

/-- What is in front of the name of the key file changes nothing of what the query may be. -/
theorem uriText_keyParam (keyfile : List Char) :
    uriText isQueryExtra ("keyfile=".toList ++ keyfile) = uriText isQueryExtra keyfile :=
  uriText_append (by decide)

/-- The query says what is requested. -/
def QuerySays (req : UriRequest) (query : Option (List Char)) : Prop :=
  (query.elim [] fun q => (q.splitOn '&').map percentDecode).Perm (requestedParams req)

/-- A single parameter for the key is read back. -/
theorem key_query_iff (keyfile : List Char) :
    (∃ query, splitQuery ('?' :: ("keyfile=".toList ++ keyfile)) = some query ∧
      (query.elim [] fun q => (q.splitOn '&').map percentDecode).Perm
        ["keyfile=".toList ++ keyfile]) ↔
      uriText isQueryExtra keyfile = true ∧ '%' ∉ keyfile ∧ '&' ∉ keyfile := by
  have hmem {c : Char} (hc : c ∉ "keyfile=".toList) :
      c ∈ "keyfile=".toList ++ keyfile ↔ c ∈ keyfile := by
    rw [List.mem_append, or_iff_right hc]
  have hpercent : '%' ∈ "keyfile=".toList ++ keyfile ↔ '%' ∈ keyfile := hmem (by decide +kernel)
  have hamp : '&' ∈ "keyfile=".toList ++ keyfile ↔ '&' ∈ keyfile := hmem (by decide +kernel)
  -- the name of the parameter has neither an escape nor a separator
  constructor
  · rintro ⟨query, hquery, hparams⟩
    obtain ⟨rfl, htext⟩ := splitQuery_eq_some hquery
    -- the query read is the text up to its end, and it must be the one parameter
    have hlen := (List.takeWhile_prefix (p := isQueryChar)
      (l := "keyfile=".toList ++ keyfile)).length_le
    obtain ⟨hwhole, hplain, hsep⟩ := (params_perm_singleton_iff htext hlen).mp hparams
    rw [hwhole, uriText_keyParam] at htext
    exact ⟨htext, hpercent.not.mp hplain, hamp.not.mp hsep⟩
  · rintro ⟨htext, hplain, hsep⟩
    have hquery := (uriText_keyParam keyfile).trans htext
    refine ⟨_, splitQuery_of_text hquery, ?_⟩
    exact (params_perm_singleton_iff hquery le_rfl).mpr
      ⟨rfl, hpercent.not.mpr hplain, hamp.not.mpr hsep⟩

/-- Two parameters are never read back: nothing is between them. -/
theorem not_two_query {keyfile : List Char} {query : Option (List Char)}
    (h : splitQuery ('?' :: ("no_verify=1".toList ++ ("keyfile=".toList ++ keyfile))) =
      some query) :
    ¬ (query.elim [] fun q => (q.splitOn '&').map percentDecode).Perm
      ["no_verify=1".toList, "keyfile=".toList ++ keyfile] := by
  obtain ⟨rfl, -⟩ := splitQuery_eq_some h
  refine not_params_perm_pair ((List.takeWhile_prefix _).length_le.trans_eq ?_)
  rw [List.length_append]

/-- **When the parameters are the ones that are requested.** -/
theorem query_iff (req : UriRequest) (h : req.withoutRootKey = true → req.tmpKeyfile ≠ none) :
    (∃ query, splitQuery (uriTail req) = some query ∧ QuerySays req query) ↔
      (getMigrationUri req = uriTls → req.withoutRootKey = false) ∧ KeyfileFits req := by
  unfold QuerySays uriTail requestedParams keyParam KeyfileFits
  cases hroot : req.withoutRootKey with
  | false =>
    refine iff_of_true ?_ ⟨fun _ => rfl, fun h => absurd h Bool.false_ne_true⟩
    by_cases htls : getMigrationUri req = uriTls
    · rw [if_pos htls, if_pos htls]
      have hread : splitQuery ('?' :: ("no_verify=1".toList ++ [])) =
          some (some "no_verify=1".toList) := by decide +kernel
      have hsays : (("no_verify=1".toList.splitOn '&').map percentDecode).Perm
          (["no_verify=1".toList] ++ []) := by decide +kernel
      exact ⟨_, hread, hsays⟩
    · rw [if_neg htls, if_neg htls]
      exact ⟨none, rfl, .nil⟩
  | true =>
    obtain ⟨keyfile, hkeyfile⟩ := Option.ne_none_iff_exists'.mp (h hroot)
    rw [hkeyfile]
    by_cases htls : getMigrationUri req = uriTls
    · rw [if_pos htls, if_pos htls]
      -- `no_verify=1` and the key are joined without `&`, so they are read as one parameter
      refine iff_of_false ?_ fun h => absurd (h.1 htls) Bool.noConfusion
      rintro ⟨query, hquery, hparams⟩
      exact not_two_query hquery hparams
    · rw [if_neg htls, if_neg htls]
      -- the key alone
      refine (key_query_iff keyfile.toList).trans ⟨fun hkey => ⟨fun h => absurd h htls, ?_⟩, ?_⟩
      · rintro - _ heq
        exact Option.some.inj heq ▸ hkey
      · exact fun h => h.2 rfl keyfile rfl

/-- **When the URI is the one that is requested.** `msdUri_eq` gives the text of a request that is
not refused, the destination as it is behind the scheme. What is read of it is known when the
destination is a host (`splitHierarchy_uri`), and otherwise another host is read or none
(`isHost_of_splitHierarchy`). -/
theorem uriExact_iff (req : UriRequest) : UriExact req ↔ UriFits req := by
  by_cases hrefused : Refused req
  -- a refused request makes no text
  · refine iff_of_true (fun uri huri => ?_) (.inl hrefused)
    rw [msdUri_refused hrefused] at huri
    exact absurd huri (Option.some_ne_none uri).symm
  obtain ⟨pre, t, uri, hpre, ht, huri, hparts⟩ := msdUri_eq hrefused
  have hsplit : splitUri uri.toList = splitHierarchy (pre ++ "+" ++ t).toList
      (req.destination.toList ++ (uriPath req pre ++ uriTail req)) := by
    rw [hparts, splitUri_scheme (colon_not_mem_scheme hpre ht)]
  have hkey : req.withoutRootKey = true → req.tmpKeyfile ≠ none :=
    fun hroot hnone => hrefused (.inr (.inr (.inr ⟨hroot, hnone⟩)))
  -- the text made is one, so it is enough to read that one
  have hexact : UriExact req ↔ ∃ parts, splitHierarchy (pre ++ "+" ++ t).toList
      (req.destination.toList ++ (uriPath req pre ++ uriTail req)) = some parts ∧
        MadeOf req pre t parts := by
    refine ⟨fun h => ?_, fun ⟨parts, hread, h⟩ uri' huri' => ?_⟩
    · obtain ⟨pre', t', parts, hpre', ht', hsplit', hmade⟩ := h uri huri
      rw [hpre] at hpre'
      rw [ht] at ht'
      obtain rfl := Option.some.inj hpre'
      obtain rfl := Option.some.inj ht'
      exact ⟨parts, hsplit.symm.trans hsplit', hmade⟩
    · obtain rfl := Option.some.inj (huri.symm.trans huri')
      exact ⟨pre, t, parts, hpre, ht, hsplit.trans hread, h⟩
  rw [hexact, UriFits, or_iff_right hrefused]
  -- a host that is no host makes a text with another host, or none
  by_cases hhost : DestinationFits req
  · have hxen : uriPrefix req.cn = some "xen" ↔ pre = "xen" := by
      rw [hpre, Option.some.injEq]
    have hpath := isPathOf_uriPath_iff req pre
    have hquery := query_iff req hkey
    rw [splitHierarchy_uri req pre _ hhost.1, and_iff_right hhost, hxen]
    constructor
    · rintro ⟨parts, hread, hmade⟩
      obtain ⟨query, hquery', rfl⟩ := Option.map_eq_some_iff.mp hread
      obtain ⟨hroot, hkeyfile⟩ := hquery.mp ⟨query, hquery', hmade.params⟩
      exact ⟨fun htls => ⟨hpath.mp hmade.path htls, hroot htls⟩, hkeyfile⟩
    · rintro ⟨htls, hkeyfile⟩
      obtain ⟨query, hquery', hsays⟩ := hquery.mpr ⟨fun h => (htls h).2, hkeyfile⟩
      exact ⟨_, Option.map_eq_some_iff.mpr ⟨query, hquery', rfl⟩, rfl,
        percentDecode_of_plain hhost.2, hpath.mpr fun h => (htls h).1, hsays⟩
  · refine iff_of_false ?_ fun h => hhost h.1
    rintro ⟨parts, hread, hmade⟩
    exact hhost (isHost_of_splitHierarchy (stop_uriPath req pre) hread hmade.host)

/-- A request of `KVM` with the transport `tls`. -/
def tlsRequest : UriRequest where
  cn := "KVM_ComputerSystem"
  destination := "host"
  migrationType := none
  transportType := some uriTls
  withoutRootKey := false
  tmpKeyfile := none

/-- The path of the URI is not the system instance. The address `fe80::1` makes no URI at all,
and what stands in front of an `@` is no part of the host. -/
theorem not_uriExact_tls : ¬ UriExact tlsRequest ∧
    ¬ UriExact { tlsRequest with destination := "fe80::1", transportType := none } ∧
    ¬ UriExact { tlsRequest with destination := "alice@host2", transportType := none } := by
  have hdestination : ∀ destination : String, isHost destination.toList = false →
      ¬ UriExact { tlsRequest with destination := destination, transportType := none } := by
    intro destination hno h
    obtain ⟨pre, t, uri, hpre, ht, huri, hparts⟩ :=
      @msdUri_eq { tlsRequest with destination := destination, transportType := none }
        (by simp [Refused, getMigrationType, tlsRequest, getMigrationUri]; decide +kernel)
    obtain ⟨pre', t', parts, hpre', ht', hsplit, hmade⟩ := h uri huri
    rw [hparts, splitUri_scheme (colon_not_mem_scheme hpre ht)] at hsplit
    have hhost := (isHost_of_splitHierarchy (stop_uriPath _ pre) hsplit hmade.host).1
    rw [hno] at hhost
    cases hhost
  refine ⟨fun h => ?_, hdestination _ (by decide +kernel), hdestination _ (by decide +kernel)⟩
  have huri : msdUri tlsRequest = some "qemu+tls://host/system/?no_verify=1" := by decide +kernel
  obtain ⟨pre, t, parts, hpre, -, hparts, hmade⟩ := h _ huri
  have hpath : (splitUri "qemu+tls://host/system/?no_verify=1".toList).map UriParts.path =
      some "/system/".toList := by decide +kernel
  have hqemu : uriPrefix tlsRequest.cn = some "qemu" := by decide +kernel
  rw [hparts, Option.map_some, Option.some.injEq] at hpath
  rw [hqemu, Option.some.injEq] at hpre
  have hof := hmade.path
  rw [← hpre, hpath, IsPathOf, if_neg (by decide)] at hof
  exact absurd hof (by decide)

end LibvirtCim.Migration
