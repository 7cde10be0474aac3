import Mathlib.Logic.Function.Basic
import ApertureC.Lib.IpAddr
import ApertureC.Lib.MapM
import ApertureC.Lib.Utf8Lossy

/-!
# TLS material that is kept on disk

Model of `get_tls_material` in `aperturec-server/src/server.rs` and of `Material` in
`aperturec-channel/src/tls.rs`:

* `OpenSsl` — keys, certificates and their PEM text, which OpenSSL provides.
* `Disk` — the nodes of the file system, and how its operations can fail.
* `Material.ecSelfSigned`, `Material.isValidForSans` — a certificate for names, and the check that
  it is one.
* `getTlsMaterial` — existing material if it is valid, new material otherwise.

Principal results: `isValidForSans_iff` (which names generated material is valid for) and
`getTlsMaterial_again_iff` — material that has been generated is loaded by later calls exactly when
no external address is an IP address.
-/

set_option autoImplicit false

namespace ApertureC

open Net Utf8

/-! ## What OpenSSL provides -/

/-- A name that `SubjectAlternativeName` is given, as text. -/
inductive SanItem where
  | dns (name : String)
  | ip (text : String)
  deriving DecidableEq, Repr

/-- A name that a certificate holds. -/
inductive GeneralName where
  | dnsName (name : String)
  | ipAddress (octets : List UInt8)
  | other
  deriving DecidableEq, Repr

def GeneralName.dnsname : GeneralName → Option String
  | .dnsName name => some name
  | _ => none

def GeneralName.ipaddress : GeneralName → Option (List UInt8)
  | .ipAddress octets => some octets
  | _ => none

/-- The name that a certificate holds for an item: an address is held as its octets. -/
def SanItem.generalName : SanItem → Option GeneralName
  | .dns name => some (.dnsName name)
  | .ip text => (IpAddr.parse text).map fun addr => .ipAddress addr.octets

/-- Keys, certificates and their PEM text.  `Seed` stands for the randomness and the clock; `none`
is an error.  PEM is ASCII, so that the text has the octets of the file. -/
structure OpenSsl (Seed Cert Key : Type) where
  generateKey : Seed → Option Key
  selfSign : Seed → Key → List SanItem → Option Cert
  verify : Cert → Key → Option Bool
  subjectAltNames : Cert → Option (List GeneralName)
  certToPem : Cert → Option (List UInt8)
  certFromPem : List UInt8 → Option Cert
  keyToPem : Key → Option (List UInt8)
  keyFromPem : List UInt8 → Option Key
  certFromPem_certToPem : ∀ cert pem, certToPem cert = some pem → certFromPem pem = some cert
  keyFromPem_keyToPem : ∀ key pem, keyToPem key = some pem → keyFromPem pem = some key
  verify_selfSign : ∀ seed key items cert, selfSign seed key items = some cert →
    verify cert key = some true
  subjectAltNames_selfSign : ∀ seed key items cert, selfSign seed key items = some cert →
    ∃ names, items.mapM SanItem.generalName = some names ∧ subjectAltNames cert = some names

/-! ## The disk -/

/-- The components of a path. -/
abbrev Path := List String

def Path.display (path : Path) : String := "/".intercalate path

inductive Node where
  | directory
  /-- `none` where the file cannot be read. -/
  | file (contents : Option (List UInt8))
  | other
  deriving DecidableEq, Repr

abbrev Disk := Path → Option Node

inductive TlsError where
  | message (text : String)
  | io
  | openssl
  deriving DecidableEq, Repr

/-- How writing a file fails: before it is opened, or after some octets. -/
inductive WriteFault where
  | notOpened
  | cut (written : Nat)
  deriving DecidableEq, Repr

/-- What goes wrong in one call; `createDirAll` may fail after some levels. -/
structure Faults where
  createDirAll : Option Nat
  writeCertificate : Option WriteFault
  writePkey : Option WriteFault

def Disk.isFile (disk : Disk) (path : Path) : Bool :=
  match disk path with
  | some (.file _) => true
  | _ => false

def Disk.read (disk : Disk) (path : Path) : Except TlsError (List UInt8) :=
  match disk path with
  | some (.file (some contents)) => .ok contents
  | _ => .error .io

/-- Directories for a path and for what leads to it, where there is nothing. -/
def Disk.makeDirs (disk : Disk) (path : Path) : Disk := fun p =>
  if disk p = none ∧ p <+: path then some .directory else disk p

def Disk.createDirAll (disk : Disk) (path : Path) : Option Nat → Except TlsError Unit × Disk
  | none => (.ok (), disk.makeDirs path)
  | some levels => (.error .io, disk.makeDirs (path.take levels))

def Disk.write (disk : Disk) (path : Path) (contents : List UInt8) :
    Option WriteFault → Except TlsError Unit × Disk
  | none => (.ok (), Function.update disk path (some (.file (some contents))))
  | some .notOpened => (.error .io, disk)
  | some (.cut written) =>
    (.error .io, Function.update disk path (some (.file (some (contents.take written)))))

/-! ## The material -/

structure Material (Cert Key : Type) where
  certificate : Cert
  pkey : Key
  deriving DecidableEq, Repr

section

variable {Seed Cert Key : Type} (ssl : OpenSsl Seed Cert Key)

def Material.fromPemFiles (disk : Disk) (certificate privateKey : Path) :
    Except TlsError (Material Cert Key) := do
  let some certificate := ssl.certFromPem (← disk.read certificate) | throw .openssl
  let some pkey := ssl.keyFromPem (← disk.read privateKey) | throw .openssl
  return ⟨certificate, pkey⟩

/-- The names of a certificate for the given domains and addresses, and for this host. -/
def sanItems (domains ips : List String) : List SanItem :=
  domains.map .dns ++ ips.map .ip ++ [.dns "localhost", .ip "127.0.0.1", .ip "::1"]

def Material.ecSelfSigned (seed : Seed) (domains ips : List String) :
    Option (Material Cert Key) := do
  let pkey ← ssl.generateKey seed
  let certificate ← ssl.selfSign seed pkey (sanItems domains ips)
  return ⟨certificate, pkey⟩

/-- The names of a certificate as text; the octets of an address are taken for text. -/
def certSans (names : List GeneralName) : List String :=
  names.filterMap GeneralName.dnsname ++ (names.filterMap GeneralName.ipaddress).map fromUtf8Lossy

def Material.isValidForSans (material : Material Cert Key) (sans : List String) : Bool :=
  if (ssl.verify material.certificate material.pkey).getD false = false then false
  else
    let certSans :=
      match ssl.subjectAltNames material.certificate with
      | some names => certSans names
      | none => []
    sans.all certSans.contains

inductive TlsConfiguration where
  | provided (certificatePath privateKeyPath : Path)
  | generated (saveDirectory : Path) (externalAddresses : List String)
  deriving DecidableEq, Repr

def CERT_PEM_FILENAME : String := "cert.pem"
def KEY_PEM_FILENAME : String := "pkey.pem"

def certPemPath (saveDirectory : Path) : Path := saveDirectory ++ [CERT_PEM_FILENAME]
def keyPemPath (saveDirectory : Path) : Path := saveDirectory ++ [KEY_PEM_FILENAME]

def domainNames (externalAddresses : List String) : List String :=
  externalAddresses.filter fun addr => IpAddr.parse addr = none

def ipAddresses (externalAddresses : List String) : List String :=
  externalAddresses.filter fun addr => IpAddr.parse addr ≠ none

/-- The material on the disk, if both files are there and it is valid for the addresses. -/
def loadExisting (saveDirectory : Path) (externalAddresses : List String) (disk : Disk) :
    Option (Material Cert Key) :=
  if disk.isFile (certPemPath saveDirectory) ∧ disk.isFile (keyPemPath saveDirectory) then
    match Material.fromPemFiles ssl disk (certPemPath saveDirectory) (keyPemPath saveDirectory) with
    | .ok material =>
      if material.isValidForSans ssl
          (domainNames externalAddresses ++ ipAddresses externalAddresses) then some material
      else none
    | .error _ => none
  else none

/-- New material, written to the disk. -/
def generateAndSave (faults : Faults) (seed : Seed) (saveDirectory : Path)
    (externalAddresses : List String) (disk : Disk) : Except TlsError (Material Cert Key) × Disk :=
  match Material.ecSelfSigned ssl seed (domainNames externalAddresses)
      (ipAddresses externalAddresses) with
  | none => (.error .openssl, disk)
  | some material =>
    match ssl.certToPem material.certificate, ssl.keyToPem material.pkey with
    | some certificate, some pkey =>
      match disk.write (certPemPath saveDirectory) certificate faults.writeCertificate with
      | (.error e, disk) => (.error e, disk)
      | (.ok (), disk) =>
        match disk.write (keyPemPath saveDirectory) pkey faults.writePkey with
        | (.error e, disk) => (.error e, disk)
        | (.ok (), disk) => (.ok material, disk)
    | _, _ => (.error .openssl, disk)

def getTlsMaterial (faults : Faults) (seed : Seed) (config : TlsConfiguration) (disk : Disk) :
    Except TlsError (Material Cert Key) × Disk :=
  match config with
  | .provided certificatePath privateKeyPath =>
    (Material.fromPemFiles ssl disk certificatePath privateKeyPath, disk)
  | .generated saveDirectory externalAddresses =>
    if disk saveDirectory ≠ none ∧ disk saveDirectory ≠ some .directory then
      (.error (.message s!"{saveDirectory.display} is not a directory"), disk)
    else
      match if disk saveDirectory = none then disk.createDirAll saveDirectory faults.createDirAll
        else (.ok (), disk) with
      | (.error e, disk) => (.error e, disk)
      | (.ok (), disk) =>
        match loadExisting ssl saveDirectory externalAddresses disk with
        | some material => (.ok material, disk)
        | none => generateAndSave ssl faults seed saveDirectory externalAddresses disk

end

/-! ## Addresses that are taken for text -/

/-- Octets that are read as the text of an address are its characters. -/
theorem of_fromUtf8Lossy {octets : List UInt8} {text : String} {addr : IpAddr}
    (htext : IpAddr.parse text = some addr) (h : fromUtf8Lossy octets = text) :
    text.length = octets.length ∧ 0 ∉ octets ∧ 127 ∉ octets := by
  obtain ⟨hchars, -⟩ := IpAddr.parse_reads htext
  have hlist := fromUtf8Lossy_ascii h fun c hc => by
    have := (hchars c hc).2
    omega
  have hmem : ∀ octet ∈ octets, AddrChar (Char.ofNat octet.toNat) := by
    intro octet hoctet
    apply hchars
    rw [hlist]
    exact List.mem_map_of_mem hoctet
  refine ⟨?_, fun h => absurd (hmem 0 h) (by decide), fun h => absurd (hmem 127 h) (by decide)⟩
  rw [← String.length_toList, hlist, List.length_map]

/-- The text `text` is what the octets of an address of the certificate are taken for. -/
def IsOctetsOf (ips : List String) (text : String) : Prop :=
  ∃ ip addr, (ip ∈ ips ∨ ip = "127.0.0.1" ∨ ip = "::1") ∧ IpAddr.parse ip = some addr ∧
    fromUtf8Lossy addr.octets = text

/-- The octets are those of one of the given addresses: the host's own hold 0 or 127. -/
theorem IsOctetsOf.exists_mem {ips : List String} {text : String} {addr : IpAddr}
    (htext : IpAddr.parse text = some addr) (h : IsOctetsOf ips text) :
    ∃ ip ∈ ips, ∃ addr', IpAddr.parse ip = some addr' ∧ 0 ∉ addr'.octets ∧
      (text.length = 4 ∨ text.length = 16) := by
  obtain ⟨ip, addr', hip, hparse, hlossy⟩ := h
  obtain ⟨hlen, hzero, hdel⟩ := of_fromUtf8Lossy htext hlossy
  rcases hip with hip | rfl | rfl
  · refine ⟨ip, hip, addr', hparse, hzero, ?_⟩
    rw [hlen]
    exact addr'.octets_length
  · rw [show IpAddr.parse "127.0.0.1" = some (.v4 ⟨127, 0, 0, 1⟩) by decide,
      Option.some.injEq] at hparse
    subst hparse
    exact absurd (by decide) hdel
  · rw [show IpAddr.parse "::1" = some (.v6 ⟨#v[0, 0, 0, 0, 0, 0, 0, 1]⟩) by decide,
      Option.some.injEq] at hparse
    subst hparse
    exact absurd (by decide) hzero

/-- The addresses of a certificate are not all found among the texts of its octets. -/
theorem exists_not_isOctetsOf {ips : List String} (hips : ∀ ip ∈ ips, IpAddr.parse ip ≠ none)
    (hne : ips ≠ []) : ∃ ip ∈ ips, ¬ IsOctetsOf ips ip := by
  by_contra hall
  have hoctets : ∀ ip ∈ ips, IsOctetsOf ips ip := by
    intro ip hip
    by_contra hnot
    exact hall ⟨ip, hip, hnot⟩
  obtain ⟨text, htext⟩ := List.exists_mem_of_ne_nil ips hne
  obtain ⟨addr, haddr⟩ := Option.ne_none_iff_exists'.mp (hips text htext)
  -- the octets of `ip` are the text of the first one, and `ip` itself is a text of octets
  obtain ⟨ip, hip, addr', hparse, hzero, -⟩ := (hoctets text htext).exists_mem haddr
  obtain ⟨-, -, -, -, -, hlen⟩ := (hoctets ip hip).exists_mem hparse
  obtain ⟨-, hshape⟩ := IpAddr.parse_reads hparse
  cases addr' with
  | v4 addr' =>
    simp only at hshape
    omega
  | v6 addr' => exact hzero (hshape (by omega))

/-! ## The names of generated material -/

section

variable {Seed Cert Key : Type} {ssl : OpenSsl Seed Cert Key}

theorem mem_certSans {names : List GeneralName} {text : String} :
    text ∈ certSans names ↔ .dnsName text ∈ names ∨
      ∃ octets, .ipAddress octets ∈ names ∧ fromUtf8Lossy octets = text := by
  have hdns : ∀ name : GeneralName, name.dnsname = some text ↔ name = .dnsName text := by
    intro name
    cases name <;> simp [GeneralName.dnsname]
  have hip : ∀ (name : GeneralName) (octets : List UInt8),
      name.ipaddress = some octets ↔ name = .ipAddress octets := by
    intro name octets
    cases name <;> simp [GeneralName.ipaddress]
  simp [certSans, hdns, hip]

theorem mem_sanItems {domains ips : List String} {item : SanItem} :
    item ∈ sanItems domains ips ↔
      (∃ name, item = .dns name ∧ (name ∈ domains ∨ name = "localhost")) ∨
        ∃ text, item = .ip text ∧ (text ∈ ips ∨ text = "127.0.0.1" ∨ text = "::1") := by
  cases item <;> simp [sanItems]

theorem generalName_eq_dnsName {item : SanItem} {name : String} :
    item.generalName = some (.dnsName name) ↔ item = .dns name := by
  cases item <;> simp [SanItem.generalName]

theorem generalName_eq_ipAddress {item : SanItem} {octets : List UInt8} :
    item.generalName = some (.ipAddress octets) ↔
      ∃ text addr, item = .ip text ∧ IpAddr.parse text = some addr ∧ addr.octets = octets := by
  cases item <;> simp [SanItem.generalName]

/-- The names of generated material, as text. -/
theorem mem_certSans_sanItems {domains ips : List String} {names : List GeneralName}
    (h : (sanItems domains ips).mapM SanItem.generalName = some names) {text : String} :
    text ∈ certSans names ↔ text ∈ domains ∨ text = "localhost" ∨ IsOctetsOf ips text := by
  have hname : ∀ name, name ∈ names ↔ ∃ item ∈ sanItems domains ips,
      item.generalName = some name := MapM.mem_iff_of_mapM h
  have hdns : .dnsName text ∈ names ↔ text ∈ domains ∨ text = "localhost" := by
    simp [hname, mem_sanItems, generalName_eq_dnsName]
  have hip : (∃ octets, .ipAddress octets ∈ names ∧ fromUtf8Lossy octets = text) ↔
      IsOctetsOf ips text := by
    simp only [hname, mem_sanItems, generalName_eq_ipAddress]
    constructor
    · rintro ⟨octets, ⟨item, hitem, ip, addr, rfl, hparse, rfl⟩, hlossy⟩
      obtain ⟨_, hne, -⟩ | ⟨_, heq, hmem⟩ := hitem
      · cases hne
      · cases heq
        exact ⟨ip, addr, hmem, hparse, hlossy⟩
    · rintro ⟨ip, addr, hmem, hparse, hlossy⟩
      exact ⟨addr.octets, ⟨.ip ip, .inr ⟨ip, rfl, hmem⟩, ip, addr, rfl, hparse, rfl⟩, hlossy⟩
  rw [mem_certSans, hdns, hip, or_assoc]

/-- Which names generated material is valid for. -/
theorem isValidForSans_iff {seed : Seed} {domains ips : List String} {m : Material Cert Key}
    (h : Material.ecSelfSigned ssl seed domains ips = some m) (sans : List String) :
    m.isValidForSans ssl sans = true ↔
      ∀ text ∈ sans, text ∈ domains ∨ text = "localhost" ∨ IsOctetsOf ips text := by
  obtain ⟨pkey, hkey, h⟩ := Option.bind_eq_some_iff.mp h
  obtain ⟨cert, hcert, h⟩ := Option.bind_eq_some_iff.mp h
  obtain rfl := by simpa using h
  obtain ⟨names, hnames, hsans⟩ := ssl.subjectAltNames_selfSign _ _ _ _ hcert
  unfold Material.isValidForSans
  rw [ssl.verify_selfSign _ _ _ _ hcert, hsans, Option.getD_some, if_neg (by decide)]
  simp only [List.all_eq_true, List.contains_iff_mem, mem_certSans_sanItems hnames]

theorem isValidForSans_generated {seed : Seed} {addrs : List String} {m : Material Cert Key}
    (h : Material.ecSelfSigned ssl seed (domainNames addrs) (ipAddresses addrs) = some m) :
    m.isValidForSans ssl (domainNames addrs ++ ipAddresses addrs) = true ↔
      ∀ addr ∈ addrs, IpAddr.parse addr = none := by
  have hips : ∀ ip ∈ ipAddresses addrs, IpAddr.parse ip ≠ none := by
    intro ip hip
    simpa [ipAddresses] using (List.mem_filter.mp hip).2
  rw [isValidForSans_iff h]
  constructor
  · intro hall
    by_contra hnot
    obtain ⟨addr, haddr, hparse⟩ : ∃ addr ∈ addrs, IpAddr.parse addr ≠ none := by
      simpa using hnot
    have hmem : addr ∈ ipAddresses addrs := List.mem_filter.mpr ⟨haddr, by simpa using hparse⟩
    obtain ⟨ip, hip, hoctets⟩ := exists_not_isOctetsOf hips (List.ne_nil_of_mem hmem)
    rcases hall ip (List.mem_append_right _ hip) with hdomain | rfl | h
    · exact hips ip hip (by simpa [domainNames] using (List.mem_filter.mp hdomain).2)
    · exact hips _ hip (by decide)
    · exact hoctets h
  · intro hall text htext
    rcases List.mem_append.mp htext with htext | htext
    · exact .inl htext
    · exact absurd (hall text (List.mem_of_mem_filter htext)) (hips text htext)

/-! ## Later calls -/

theorem certPemPath_ne_keyPemPath (dir : Path) : certPemPath dir ≠ keyPemPath dir := by
  simp [certPemPath, keyPemPath, CERT_PEM_FILENAME, KEY_PEM_FILENAME]

theorem Disk.isFile_congr {disk disk' : Disk} {path : Path} (h : disk path = disk' path) :
    disk.isFile path = disk'.isFile path := by
  unfold Disk.isFile
  rw [h]

theorem Disk.read_congr {disk disk' : Disk} {path : Path} (h : disk path = disk' path) :
    disk.read path = disk'.read path := by
  unfold Disk.read
  rw [h]

/-- Only the two files matter. -/
theorem loadExisting_congr {dir : Path} {addrs : List String} {disk disk' : Disk}
    (hcert : disk (certPemPath dir) = disk' (certPemPath dir))
    (hkey : disk (keyPemPath dir) = disk' (keyPemPath dir)) :
    loadExisting ssl dir addrs disk = loadExisting ssl dir addrs disk' := by
  unfold loadExisting Material.fromPemFiles
  rw [Disk.isFile_congr hcert, Disk.isFile_congr hkey, Disk.read_congr hcert, Disk.read_congr hkey]

/-- Making a directory leaves what is in it. -/
theorem makeDirs_append {disk : Disk} {dir : Path} {name : String} :
    disk.makeDirs dir (dir ++ [name]) = disk (dir ++ [name]) := by
  unfold Disk.makeDirs
  rw [if_neg]
  rintro ⟨-, hle⟩
  have := hle.length_le
  rw [List.length_append, List.length_singleton] at this
  omega

/-- What a call that generates material leaves on the disk. -/
theorem generateAndSave_ok {faults : Faults} {seed : Seed} {dir : Path} {addrs : List String}
    {disk disk' : Disk} {m : Material Cert Key}
    (h : generateAndSave ssl faults seed dir addrs disk = (.ok m, disk')) :
    Material.ecSelfSigned ssl seed (domainNames addrs) (ipAddresses addrs) = some m ∧
      faults.writePkey = none ∧ ∃ certificate pkey, ssl.certToPem m.certificate = some certificate ∧
        ssl.keyToPem m.pkey = some pkey ∧
        disk' = Function.update (Function.update disk (certPemPath dir)
          (some (.file (some certificate)))) (keyPemPath dir) (some (.file (some pkey))) := by
  unfold generateAndSave at h
  cases hgen : Material.ecSelfSigned ssl seed (domainNames addrs) (ipAddresses addrs) with
  | none => simp [hgen] at h
  | some m' =>
    simp only [hgen] at h
    split at h
    · rename_i certificate pkey hcert hkey
      obtain ⟨create, writeCertificate, writePkey⟩ := faults
      rcases writeCertificate with _ | _ | _ <;> rcases writePkey with _ | _ | _ <;>
        simp only [Disk.write, Prod.mk.injEq, Except.ok.injEq, reduceCtorEq, false_and] at h
      obtain ⟨rfl, rfl⟩ := h
      exact ⟨rfl, rfl, certificate, pkey, hcert, hkey, rfl⟩
    · simp at h

/-- The material of a call that generated it is what the disk holds. -/
theorem loadExisting_generated {faults : Faults} {seed : Seed} {dir : Path} {addrs : List String}
    {disk disk' : Disk} {m : Material Cert Key}
    (h : generateAndSave ssl faults seed dir addrs disk = (.ok m, disk')) :
    loadExisting ssl dir addrs disk' =
      if m.isValidForSans ssl (domainNames addrs ++ ipAddresses addrs) then some m else none := by
  obtain ⟨-, -, certificate, pkey, hcert, hkey, hdisk⟩ := generateAndSave_ok h
  have hcertFile : disk' (certPemPath dir) = some (.file (some certificate)) := by
    rw [hdisk, Function.update_of_ne (certPemPath_ne_keyPemPath dir), Function.update_self]
  have hkeyFile : disk' (keyPemPath dir) = some (.file (some pkey)) := by
    rw [hdisk, Function.update_self]
  have hfiles : disk'.isFile (certPemPath dir) = true ∧ disk'.isFile (keyPemPath dir) = true := by
    simp [Disk.isFile, hcertFile, hkeyFile]
  have hread : Material.fromPemFiles ssl disk' (certPemPath dir) (keyPemPath dir) = .ok m := by
    simp [Material.fromPemFiles, Disk.read, hcertFile, hkeyFile,
      ssl.certFromPem_certToPem _ _ hcert, ssl.keyFromPem_keyToPem _ _ hkey, bind, Except.bind,
      pure, Except.pure]
  unfold loadExisting
  rw [if_pos hfiles, hread]

/-- A call that finds no valid material generates it, with the directory in place. -/
theorem getTlsMaterial_generates {faults : Faults} {seed : Seed} {dir : Path}
    {addrs : List String} {disk disk' : Disk} {m : Material Cert Key}
    (hnone : loadExisting ssl dir addrs disk = none)
    (h : getTlsMaterial ssl faults seed (.generated dir addrs) disk = (.ok m, disk')) :
    ∃ disk₁, disk₁ dir = some .directory ∧
      generateAndSave ssl faults seed dir addrs disk₁ = (.ok m, disk') := by
  unfold getTlsMaterial at h
  simp only at h
  split_ifs at h with hother habsent
  · simp at h
  · -- the directory is made
    have hsame : loadExisting ssl dir addrs (disk.makeDirs dir) = none := by
      rw [← hnone]
      exact loadExisting_congr makeDirs_append makeDirs_append
    cases hcreate : faults.createDirAll with
    | none =>
      simp only [hcreate, Disk.createDirAll, hsame] at h
      exact ⟨_, by simp [Disk.makeDirs, habsent], h⟩
    | some levels => simp [hcreate, Disk.createDirAll] at h
  · simp only [hnone] at h
    exact ⟨disk, by simpa [habsent] using hother, h⟩

/-- What a call does when the directory is there. -/
theorem getTlsMaterial_of_directory {faults : Faults} {seed : Seed} {dir : Path}
    {addrs : List String} {disk : Disk} (hdir : disk dir = some .directory) :
    getTlsMaterial ssl faults seed (.generated dir addrs) disk =
      match loadExisting ssl dir addrs disk with
      | some material => (.ok material, disk)
      | none => generateAndSave ssl faults seed dir addrs disk := by
  simp [getTlsMaterial, hdir]

/-- **Material that a call has generated is returned by every later call with the configuration, and
not generated anew, exactly when no external address is an IP address.** -/
theorem getTlsMaterial_again_iff {faults : Faults} {seed : Seed} {dir : Path}
    {addrs : List String} {disk disk' : Disk} {m : Material Cert Key}
    (hnone : loadExisting ssl dir addrs disk = none)
    (hfirst : getTlsMaterial ssl faults seed (.generated dir addrs) disk = (.ok m, disk')) :
    (∀ faults seed, getTlsMaterial ssl faults seed (.generated dir addrs) disk' = (.ok m, disk')) ↔
      ∀ addr ∈ addrs, IpAddr.parse addr = none := by
  obtain ⟨disk₁, hdir, hgenerate⟩ := getTlsMaterial_generates hnone hfirst
  obtain ⟨hsigned, -, certificate, pkey, -, -, hdisk⟩ := generateAndSave_ok hgenerate
  have hdir' : disk' dir = some .directory := by
    rw [hdisk, Function.update_of_ne (by simp [keyPemPath]),
      Function.update_of_ne (by simp [certPemPath])]
    exact hdir
  have hload := loadExisting_generated hgenerate
  have hvalid := isValidForSans_generated hsigned
  constructor
  · intro hagain
    apply hvalid.mp
    by_contra hinvalid
    rw [if_neg hinvalid] at hload
    -- a call that cannot write the key has nothing to return
    have hcall := hagain ⟨none, none, some .notOpened⟩ seed
    rw [getTlsMaterial_of_directory hdir', hload] at hcall
    obtain ⟨-, hfault, -⟩ := generateAndSave_ok hcall
    cases hfault
  · intro hall faults' seed'
    rw [if_pos (hvalid.mpr hall)] at hload
    rw [getTlsMaterial_of_directory hdir', hload]

end

/-- Certificates for the given names, which differ in the seed only. -/
def seededSsl (names : List GeneralName) : OpenSsl UInt8 (UInt8 × List GeneralName) UInt8 where
  generateKey seed := some seed
  selfSign seed _ items := (items.mapM SanItem.generalName).map (seed, ·)
  verify _ _ := some true
  subjectAltNames cert := some cert.2
  certToPem cert := if cert.2 = names then some [0x43, cert.1] else none
  certFromPem
    | [0x43, seed] => some (seed, names)
    | _ => none
  keyToPem key := some [0x4B, key]
  keyFromPem
    | [0x4B, key] => some key
    | _ => none
  certFromPem_certToPem := by
    rintro ⟨seed, names'⟩ pem h
    split_ifs at h with hnames
    obtain rfl := by simpa using h
    exact congrArg some (Prod.ext rfl hnames.symm)
  keyFromPem_keyToPem := by
    rintro key pem h
    obtain rfl := by simpa using h
    rfl
  verify_selfSign _ _ _ _ _ := rfl
  subjectAltNames_selfSign := by
    rintro seed key items cert h
    obtain ⟨names', hnames, rfl⟩ := Option.map_eq_some_iff.mp h
    exact ⟨names', hnames, rfl⟩

/-- The names of the host itself. -/
def hostNames : List GeneralName :=
  [.dnsName "localhost", .ipAddress [127, 0, 0, 1],
    .ipAddress [0, 0, 0, 0, 0, 0, 0, 0, 0, 0, 0, 0, 0, 0, 0, 1]]

/-- The disk after a first call on an empty one. -/
def firstDisk (names : List GeneralName) (addr : String) : Disk :=
  (getTlsMaterial (seededSsl names) ⟨none, none, none⟩ 1 (.generated ["tls"] [addr])
    fun _ => none).2

/-- A domain name is found again, whatever the next call would generate. -/
theorem getTlsMaterial_again_iff_domain :
    getTlsMaterial (seededSsl (.dnsName "example.com" :: hostNames)) ⟨none, none, none⟩ 2
        (.generated ["tls"] ["example.com"])
        (firstDisk (.dnsName "example.com" :: hostNames) "example.com") =
      (.ok ⟨(1, .dnsName "example.com" :: hostNames), 1⟩,
        firstDisk (.dnsName "example.com" :: hostNames) "example.com") :=
  (getTlsMaterial_again_iff (show loadExisting _ _ _ (fun _ => none) = none from rfl)
    (Prod.ext rfl rfl)).mpr (by decide) ⟨none, none, none⟩ 2

/-- An address is not: the next call returns new material, of its own seed. -/
theorem getTlsMaterial_regenerates :
    (getTlsMaterial (seededSsl (.ipAddress [10, 0, 0, 1] :: hostNames)) ⟨none, none, none⟩ 1
        (.generated ["tls"] ["10.0.0.1"]) fun _ => none).1 =
      .ok ⟨(1, .ipAddress [10, 0, 0, 1] :: hostNames), 1⟩ ∧
    (getTlsMaterial (seededSsl (.ipAddress [10, 0, 0, 1] :: hostNames)) ⟨none, none, none⟩ 2
        (.generated ["tls"] ["10.0.0.1"])
        (firstDisk (.ipAddress [10, 0, 0, 1] :: hostNames) "10.0.0.1")).1 =
      .ok ⟨(2, .ipAddress [10, 0, 0, 1] :: hostNames), 2⟩ :=
  ⟨rfl, rfl⟩

end ApertureC
