import AirTizen.Library.Dns
import AirTizen.Library.Text

/-!
# The mDNS announcement

`build_packet` of `airtizen_mdns.c` and the writers below it, which fill a stack
buffer and patch the length of every record behind its data.  The packet is a DNS
response with the seven records of the two services.
-/

namespace AirTizen.Discovery

open CText Cursor

/-! ## Writers -/

def mdnsMax : Nat := 1400

def sourceVersion : Bytes := ascii "220.68"

abbrev Stack (size : Nat) := { cells : Bytes // cells.length = size }

/-- `snprintf` of the text into a buffer of this size. -/
def printed (capacity : Nat) (text : Bytes) : Bytes := text.take (capacity - 1)

def hexDigit (byte : UInt8) : Bool :=
  isDigit byte || (65 ≤ byte && byte ≤ 70) || (97 ≤ byte && byte ≤ 102)

/-- What is announced: the static variables that `airtizen_mdns_start` and its
callers have checked. -/
structure Announced where
  deviceName : Bytes
  deviceId : Bytes
  /-- `g_public_key`, empty until it is set. -/
  publicKey : Bytes
  uxplayTest : Bool
  port : Nat
  /-- `g_address.s_addr`, in network order. -/
  address : Bytes
  ttl : Nat
  deviceName_length : 1 ≤ deviceName.length ∧ deviceName.length ≤ 48
  deviceName_text : 0 ∉ deviceName
  deviceId_length : deviceId.length = 12
  deviceId_digits : ∀ byte ∈ deviceId, hexDigit byte = true
  publicKey_length : publicKey = [] ∨ publicKey.length = 64
  publicKey_digits : ∀ byte ∈ publicKey, hexDigit byte = true
  port_lt : port < 2 ^ 16
  address_length : address.length = 4
  ttl_lt : ttl < 2 ^ 32

structure Identity extends Announced where
  deviceName_undotted : 46 ∉ deviceName

def u16 (value : Nat) : Writer := putNumber 2 value

def u32 (value : Nat) : Writer := putNumber 4 value

/-- A length byte with at most 63 bytes of text. -/
def label (text : Bytes) : Writer :=
  put [UInt8.ofNat (min text.length 63)] >=> put (text.take (min text.length 63))

def name (text : Bytes) : Writer :=
  if text = [] then put [0]
  else
    match _found : strchr 46 text with
    | none => label text >=> put [0]
    | some (before, after) => label before >=> name after
termination_by text.length
decreasing_by
  rw [strchr_append _found, List.length_append, List.length_cons]
  omega

def txt (text : Bytes) : Writer :=
  put [UInt8.ofNat (min text.length 255)] >=> put (text.take (min text.length 255))

def txts (texts : List Bytes) : Writer := texts.foldr (fun text rest => txt text >=> rest) some

namespace Announced

variable (announced : Announced)

def selectedFeaturesTxt : Bytes :=
  if announced.uxplayTest then ascii "0x5A7FFEE6,0x0" else ascii "0x4803a383,0x0"

def selectedModel : Bytes :=
  if announced.uxplayTest then ascii "AppleTV3,2" else ascii "AirTizen1,1"

def ptr (service instanceName : Bytes) : Writer :=
  name service >=> u16 12 >=> u16 1 >=> u32 announced.ttl >=> putMeasured (name instanceName)

def srv (instanceName host : Bytes) : Writer :=
  name instanceName >=> u16 33 >=> u16 0x8001 >=> u32 announced.ttl >=>
    putMeasured (u16 0 >=> u16 0 >=> u16 announced.port >=> name host)

def txtRaopData : Writer :=
  txts [ascii "txtvers=1", ascii "ch=2", ascii "md=0,1,2"] >=>
  txt (if announced.uxplayTest then ascii "cn=0,1,2,3" else ascii "cn=1,2,3") >=>
  txts [ascii "da=true", ascii "et=0,3,5", ascii "pw=false", ascii "sr=44100", ascii "ss=16",
    ascii "tp=UDP", ascii "vn=65537", ascii "vs=" ++ sourceVersion, ascii "sf=0x4"] >=>
  txt (printed 64 (ascii "ft=" ++ announced.selectedFeaturesTxt)) >=>
  txt (printed 64 (ascii "am=" ++ announced.selectedModel)) >=>
  txts (if announced.uxplayTest then [ascii "rhd=5.6.0.0", ascii "sv=false"] else []) >=>
  txts (if announced.publicKey ≠ [] then [printed 68 (ascii "pk=" ++ announced.publicKey)] else [])

/-- `%.2s` of the identifier from `offset` on. -/
def octet (offset : Nat) : Bytes := (announced.deviceId.drop offset).take 2

def txtAirplayData : Writer :=
  txt (printed 40 (ascii "deviceid=" ++ announced.octet 0 ++ ascii ":" ++ announced.octet 2 ++
    ascii ":" ++ announced.octet 4 ++ ascii ":" ++ announced.octet 6 ++ ascii ":" ++
    announced.octet 8 ++ ascii ":" ++ announced.octet 10)) >=>
  txt (printed 64 (ascii "features=" ++ announced.selectedFeaturesTxt)) >=>
  txt (ascii "flags=0x4") >=>
  txt (printed 64 (ascii "model=" ++ announced.selectedModel)) >=>
  txts [ascii "srcvers=" ++ sourceVersion, ascii "vv=2"] >=>
  txts (if announced.publicKey ≠ [] then [printed 68 (ascii "pk=" ++ announced.publicKey)] else []) >=>
  txt (printed 40 (ascii "pi=00000000-0000-4000-8000-" ++ announced.deviceId.take 12))

def txtData (airplay : Bool) : Writer :=
  if airplay then announced.txtAirplayData else announced.txtRaopData

def txtRecord (instanceName : Bytes) (airplay : Bool) : Writer :=
  name instanceName >=> u16 16 >=> u16 0x8001 >=> u32 announced.ttl >=>
    putMeasured (announced.txtData airplay)

def addressRecord (host : Bytes) : Writer :=
  name host >=> u16 1 >=> u16 0x8001 >=> u32 announced.ttl >=> u16 4 >=> put announced.address

def buildPacket : Writer :=
  let raop := printed 220 (announced.deviceId ++ ascii "@" ++ announced.deviceName ++ ascii "._raop._tcp.local")
  let air := printed 180 (announced.deviceName ++ ascii "._airplay._tcp.local")
  let host := printed 140 (announced.deviceName ++ ascii ".local")
  u16 0 >=> u16 0x8400 >=> u16 0 >=> u16 7 >=> u16 0 >=> u16 0 >=>
    announced.ptr (ascii "_raop._tcp.local") raop >=>
    announced.srv raop host >=>
    announced.txtRecord raop false >=>
    announced.ptr (ascii "_airplay._tcp.local") air >=>
    announced.srv air host >=>
    announced.txtRecord air true >=>
    announced.addressRecord host

/-- What `announce` sends: the packet in an uninitialised buffer, up to the length
that `build_packet` returns. -/
def announce (packet : Stack mdnsMax) : Option Bytes :=
  (announced.buildPacket (packet.1, 0)).map fun (buffer, length) => buffer.take length

/-- `airtizen_mdns_txt` with its buffer: what it copies out, nothing where the
capacity is too small. -/
def mdnsTxt (airplay : Bool) (data : Stack 512) (capacity : Nat) : Option Bytes :=
  (announced.txtData airplay (data.1, 0)).map fun (buffer, size) =>
    if capacity < size then [] else buffer.take size

end Announced

/-! ## What the writers append -/

def dotted : Dns.Name → Bytes
  | [] => []
  | [last] => last
  | first :: rest => first ++ 46 :: dotted rest

/-- A label that `name` finds between two dots. -/
def Plain (text : Bytes) : Prop := text ≠ [] ∧ text.length ≤ 63 ∧ 46 ∉ text

instance (text : Bytes) : Decidable (Plain text) := inferInstanceAs (Decidable (_ ∧ _ ∧ _))

theorem appends_label {text : Bytes} (short : text.length ≤ 63) :
    Appends (label text) (Dns.labelWire text) := by
  rw [label, Nat.min_eq_left short, List.take_length]
  exact (appends_put [UInt8.ofNat text.length]).andThen (appends_put text)

theorem name_last {text : Bytes} (some : text ≠ []) (undotted : 46 ∉ text) :
    name text = label text >=> put [0] := by
  rw [name, if_neg some]
  split
  next none => rfl
  next before after found =>
    have dot : (46 : UInt8) ∈ text := by
      rw [strchr_append found]
      exact List.mem_append_right _ List.mem_cons_self
    exact absurd dot undotted

theorem name_first {text : Bytes} (undotted : 46 ∉ text) (rest : Bytes) :
    name (text ++ 46 :: rest) = label text >=> name rest := by
  have first : strchr 46 (text ++ 46 :: rest) = some (text, rest) := strchr_eq_some undotted
  rw [name, if_neg (List.append_ne_nil_of_right_ne_nil _ (List.cons_ne_nil _ _))]
  split
  next none =>
    rw [first] at none
    cases none
  next before after found =>
    rw [first] at found
    cases found
    rfl

/-- A dotted name is encoded label by label, empty ones in front of the last
included. -/
theorem appends_labels {labels : Dns.Name} {last : Bytes} (some : last ≠ [])
    (ends : labels.getLast? = .some last)
    (short : ∀ text ∈ labels, text.length ≤ 63 ∧ 46 ∉ text) :
    Appends (name (dotted labels)) (Dns.nameWire labels) := by
  induction labels with
  | nil => cases ends
  | cons first rest inductionHypothesis =>
      obtain ⟨small, undotted⟩ := short first List.mem_cons_self
      cases rest with
      | nil =>
          obtain rfl : first = last := Option.some.inj ends
          have wire : Dns.nameWire [first] = Dns.labelWire first ++ [0] := by
            rw [Dns.nameWire, List.flatMap_singleton]
          rw [dotted, name_last some undotted, wire]
          exact (appends_label small).andThen (appends_put [0])
      | cons second rest =>
          rw [List.getLast?_cons_cons] at ends
          have later := inductionHypothesis ends
            fun text membership => short text (List.mem_cons_of_mem _ membership)
          have wire : Dns.nameWire (first :: second :: rest) =
              Dns.labelWire first ++ Dns.nameWire (second :: rest) := by
            rw [Dns.nameWire, Dns.nameWire, List.flatMap_cons, List.append_assoc]
          rw [dotted, name_first undotted, wire]
          · exact (appends_label small).andThen later
          · exact List.cons_ne_nil _ _

theorem appends_name {labels : Dns.Name} (some : labels ≠ [])
    (plain : ∀ text ∈ labels, Plain text) :
    Appends (name (dotted labels)) (Dns.nameWire labels) :=
  appends_labels (plain _ (List.getLast_mem some)).1 (List.getLast?_eq_some_getLast some)
    fun text membership => (plain text membership).2

theorem appends_txt {text : Bytes} (short : text.length ≤ 255) :
    Appends (txt text) (Dns.labelWire text) := by
  rw [txt, Nat.min_eq_left short, List.take_length]
  exact (appends_put [UInt8.ofNat text.length]).andThen (appends_put text)

theorem appends_txts {texts : List Bytes} (short : ∀ text ∈ texts, text.length ≤ 255) :
    Appends (txts texts) (texts.flatMap Dns.labelWire) := by
  induction texts with
  | nil =>
      intro front back _
      simp [txts]
  | cons text rest inductionHypothesis =>
      have later := inductionHypothesis fun other membership =>
        short other (List.mem_cons_of_mem _ membership)
      exact (appends_txt (short text List.mem_cons_self)).andThen later

theorem txts_append (first second : List Bytes) :
    txts (first ++ second) = (txts first >=> txts second) := by
  induction first with
  | nil => rfl
  | cons text rest inductionHypothesis =>
      show (txt text >=> txts (rest ++ second)) = ((txt text >=> txts rest) >=> txts second)
      rw [inductionHypothesis, fish_assoc]

theorem txts_singleton (text : Bytes) : txts [text] = txt text := fish_pure _

/-! ## The strings -/

namespace Announced

variable (announced : Announced)

def publicKeyTexts : List Bytes :=
  if announced.publicKey = [] then [] else [ascii "pk=" ++ announced.publicKey]

def raopProfile (uxplayTest : Bool) : List Bytes :=
  [ascii "txtvers=1", ascii "ch=2", ascii "md=0,1,2",
    ascii (if uxplayTest then "cn=0,1,2,3" else "cn=1,2,3"), ascii "da=true",
    ascii "et=0,3,5", ascii "pw=false", ascii "sr=44100", ascii "ss=16", ascii "tp=UDP",
    ascii "vn=65537", ascii "vs=220.68", ascii "sf=0x4",
    ascii (if uxplayTest then "ft=0x5A7FFEE6,0x0" else "ft=0x4803a383,0x0"),
    ascii (if uxplayTest then "am=AppleTV3,2" else "am=AirTizen1,1")] ++
  if uxplayTest then [ascii "rhd=5.6.0.0", ascii "sv=false"] else []

def raopTexts : List Bytes := raopProfile announced.uxplayTest ++ announced.publicKeyTexts

def colons : Bytes → Bytes
  | high :: low :: next :: rest => high :: low :: 58 :: colons (next :: rest)
  | rest => rest

def airplayProfile (uxplayTest : Bool) : List Bytes :=
  [ascii (if uxplayTest then "features=0x5A7FFEE6,0x0" else "features=0x4803a383,0x0"),
    ascii "flags=0x4", ascii (if uxplayTest then "model=AppleTV3,2" else "model=AirTizen1,1"),
    ascii "srcvers=220.68", ascii "vv=2"]

def airplayTexts : List Bytes :=
  [ascii "deviceid=" ++ colons announced.deviceId] ++ airplayProfile announced.uxplayTest ++
    announced.publicKeyTexts ++ [ascii "pi=00000000-0000-4000-8000-" ++ announced.deviceId]

def texts (airplay : Bool) : List Bytes :=
  if airplay then announced.airplayTexts else announced.raopTexts

theorem printed_eq {capacity : Nat} {text : Bytes} (fits : text.length < capacity) :
    printed capacity text = text := List.take_of_length_le (Nat.le_sub_one_of_lt fits)

theorem publicKeyTexts_eq :
    (if announced.publicKey ≠ [] then [printed 68 (ascii "pk=" ++ announced.publicKey)] else []) =
      announced.publicKeyTexts := by
  rw [publicKeyTexts, ite_not]
  rcases announced.publicKey_length with empty | whole
  · rw [if_pos empty, if_pos empty]
  · rw [printed_eq]
    rw [List.length_append, whole]
    decide

theorem colons_eq {id : Bytes} (size : id.length = 12) :
    (id.drop 0).take 2 ++ ascii ":" ++ (id.drop 2).take 2 ++ ascii ":" ++ (id.drop 4).take 2 ++
      ascii ":" ++ (id.drop 6).take 2 ++ ascii ":" ++ (id.drop 8).take 2 ++ ascii ":" ++
      (id.drop 10).take 2 = colons id := by
  match id, size with
  | [_, _, _, _, _, _, _, _, _, _, _, _], _ => rfl

theorem colons_length {id : Bytes} (size : id.length = 12) : (colons id).length = 17 := by
  match id, size with
  | [_, _, _, _, _, _, _, _, _, _, _, _], _ => rfl

theorem txtRaopData_eq : announced.txtRaopData = txts announced.raopTexts := by
  unfold txtRaopData
  rw [publicKeyTexts_eq]
  simp only [← txts_singleton, ← txts_append]
  congr 1
  unfold raopTexts raopProfile selectedFeaturesTxt selectedModel
  cases announced.uxplayTest <;> rfl

theorem txtAirplayData_eq : announced.txtAirplayData = txts announced.airplayTexts := by
  have size := announced.deviceId_length
  have device : printed 40 (ascii "deviceid=" ++ announced.octet 0 ++ ascii ":" ++
      announced.octet 2 ++ ascii ":" ++ announced.octet 4 ++ ascii ":" ++ announced.octet 6 ++
      ascii ":" ++ announced.octet 8 ++ ascii ":" ++ announced.octet 10) =
        ascii "deviceid=" ++ colons announced.deviceId := by
    have joined : ascii "deviceid=" ++ announced.octet 0 ++ ascii ":" ++ announced.octet 2 ++
        ascii ":" ++ announced.octet 4 ++ ascii ":" ++ announced.octet 6 ++ ascii ":" ++
        announced.octet 8 ++ ascii ":" ++ announced.octet 10 =
          ascii "deviceid=" ++ colons announced.deviceId := by
      rw [← colons_eq size]
      simp only [octet, List.append_assoc]
    rw [joined, printed_eq]
    rw [List.length_append, colons_length size]
    decide
  have pairing : printed 40 (ascii "pi=00000000-0000-4000-8000-" ++ announced.deviceId.take 12) =
      ascii "pi=00000000-0000-4000-8000-" ++ announced.deviceId := by
    rw [List.take_of_length_le size.le, printed_eq]
    rw [List.length_append, size]
    decide
  unfold txtAirplayData
  rw [publicKeyTexts_eq, device, pairing]
  simp only [← txts_singleton, ← txts_append]
  congr 1
  unfold airplayTexts airplayProfile selectedFeaturesTxt selectedModel
  cases announced.uxplayTest <;> rfl

theorem txtData_eq (airplay : Bool) : announced.txtData airplay = txts (announced.texts airplay) := by
  cases airplay with
  | false => exact announced.txtRaopData_eq
  | true => exact announced.txtAirplayData_eq

/-- Strings that fit their length bytes, so many bytes together. -/
def Fits (texts : List Bytes) (size : Nat) : Prop :=
  (texts.flatMap Dns.labelWire).length ≤ size ∧ ∀ text ∈ texts, text.length ≤ 255

instance (texts : List Bytes) (size : Nat) : Decidable (Fits texts size) :=
  inferInstanceAs (Decidable (_ ∧ ∀ text ∈ texts, text.length ≤ 255))

theorem Fits.append {first second : List Bytes} {size more : Nat} (fits : Fits first size)
    (others : Fits second more) : Fits (first ++ second) (size + more) := by
  refine ⟨?_, fun text membership => ?_⟩
  · rw [List.flatMap_append, List.length_append]
    exact Nat.add_le_add fits.1 others.1
  · rcases List.mem_append.mp membership with inFirst | inSecond
    · exact fits.2 text inFirst
    · exact others.2 text inSecond

theorem fits_singleton {text : Bytes} (short : text.length ≤ 255) :
    Fits [text] (text.length + 1) := by
  refine ⟨?_, fun other membership => ?_⟩
  · rw [List.flatMap_singleton, Dns.labelWire, List.length_cons]
  · rwa [List.mem_singleton.mp membership]

theorem fits_publicKey : Fits announced.publicKeyTexts 68 := by
  unfold publicKeyTexts
  split
  · decide
  next present =>
    have size : (ascii "pk=" ++ announced.publicKey).length = 67 := by
      rw [List.length_append, announced.publicKey_length.resolve_left present]
      decide
    have fits := fits_singleton (size.le.trans (by decide : 67 ≤ 255))
    rwa [size] at fits

theorem fits_texts (airplay : Bool) : Fits (announced.texts airplay) 231 := by
  cases airplay with
  | false =>
      have profile : ∀ uxplayTest, Fits (raopProfile uxplayTest) 163 := by decide +kernel
      exact (profile _).append announced.fits_publicKey
  | true =>
      have profile : ∀ uxplayTest, Fits (airplayProfile uxplayTest) 72 := by decide +kernel
      have device : (ascii "deviceid=" ++ colons announced.deviceId).length = 26 := by
        rw [List.length_append, colons_length announced.deviceId_length]
        decide
      have pairing : (ascii "pi=00000000-0000-4000-8000-" ++ announced.deviceId).length = 39 := by
        rw [List.length_append, announced.deviceId_length]
        decide
      have first := fits_singleton (device.le.trans (by decide : 26 ≤ 255))
      have last := fits_singleton (pairing.le.trans (by decide : 39 ≤ 255))
      rw [device] at first
      rw [pairing] at last
      have all := ((first.append (profile announced.uxplayTest)).append
        announced.fits_publicKey).append last
      exact ⟨all.1.trans (by decide), all.2⟩

end Announced

/-! ## The packet -/

def raopService : Dns.Name := [ascii "_raop", ascii "_tcp", ascii "local"]

def airplayService : Dns.Name := [ascii "_airplay", ascii "_tcp", ascii "local"]

namespace Announced

variable (announced : Announced)

/-- A record of the announcement; all but the pointers flush caches. -/
def record (owner : Dns.Name) (type class_ : Nat) (data : Dns.Data) : Dns.Record where
  owner := owner
  type := type
  class_ := class_
  ttl := announced.ttl
  rdata := Dns.dataWire data
  data := data

/-- The texts of the three names that `build_packet` makes of the device name. -/
def raopText : Bytes :=
  announced.deviceId ++ ascii "@" ++ announced.deviceName ++ ascii "._raop._tcp.local"

def airText : Bytes := announced.deviceName ++ ascii "._airplay._tcp.local"

def hostText : Bytes := announced.deviceName ++ ascii ".local"

theorem texts_length : announced.raopText.length ≤ 78 ∧ announced.airText.length ≤ 68 ∧
    announced.hostText.length ≤ 54 := by
  have id := announced.deviceId_length
  obtain ⟨_, most⟩ := announced.deviceName_length
  have raop : (ascii "._raop._tcp.local").length = 17 := by decide
  have air : (ascii "._airplay._tcp.local").length = 20 := by decide
  have domain : (ascii ".local").length = 6 := by decide
  have at_ : (ascii "@").length = 1 := rfl
  refine ⟨?_, ?_, ?_⟩
  · rw [raopText, List.length_append, List.length_append, List.length_append, raop, at_]
    omega
  · rw [airText, List.length_append, air]
    omega
  · rw [hostText, List.length_append, domain]
    omega

def entryWire (owner : Bytes) (type class_ : Nat) (data : Bytes) : Bytes :=
  owner ++ Octets.ofNat 2 type ++ Octets.ofNat 2 class_ ++ Octets.ofNat 4 announced.ttl ++
    Octets.ofNat 2 data.length ++ data

def serviceWire (host : Bytes) : Bytes :=
  Octets.ofNat 2 0 ++ Octets.ofNat 2 0 ++ Octets.ofNat 2 announced.port ++ host

def recordsWire (raop air host : Bytes) : Bytes :=
  announced.entryWire (Dns.nameWire raopService) 12 1 raop ++
    (announced.entryWire raop 33 0x8001 (announced.serviceWire host) ++
    (announced.entryWire raop 16 0x8001 ((announced.texts false).flatMap Dns.labelWire) ++
    (announced.entryWire (Dns.nameWire airplayService) 12 1 air ++
    (announced.entryWire air 33 0x8001 (announced.serviceWire host) ++
    (announced.entryWire air 16 0x8001 ((announced.texts true).flatMap Dns.labelWire) ++
      announced.entryWire host 1 0x8001 announced.address)))))

def headerWire : Bytes :=
  Octets.ofNat 2 0 ++ Octets.ofNat 2 0x8400 ++ Octets.ofNat 2 0 ++ Octets.ofNat 2 7 ++
    Octets.ofNat 2 0 ++ Octets.ofNat 2 0

theorem appends_txtData (airplay : Bool) :
    Appends (announced.txtData airplay) ((announced.texts airplay).flatMap Dns.labelWire) := by
  rw [txtData_eq]
  exact appends_txts (announced.fits_texts airplay).2

theorem appends_entry {owner data : Bytes} {type class_ : Nat} {ownerWriter dataWriter : Writer}
    (named : Appends ownerWriter owner) (filled : Appends dataWriter data) :
    Appends (ownerWriter >=> u16 type >=> u16 class_ >=> u32 announced.ttl >=>
        putMeasured dataWriter) (announced.entryWire owner type class_ data) := by
  have fields := named.andThen ((appends_putNumber 2 type).andThen
    ((appends_putNumber 2 class_).andThen ((appends_putNumber 4 announced.ttl).andThen
      (appends_putMeasured filled))))
  rw [entryWire, List.append_assoc, List.append_assoc, List.append_assoc, List.append_assoc]
  exact fields

theorem appends_ptr {owner target service instanceName : Bytes}
    (named : Appends (name service) owner) (pointed : Appends (name instanceName) target) :
    Appends (announced.ptr service instanceName) (announced.entryWire owner 12 1 target) :=
  announced.appends_entry named pointed

theorem appends_txtRecord {owner instanceName : Bytes} (airplay : Bool)
    (named : Appends (name instanceName) owner) :
    Appends (announced.txtRecord instanceName airplay)
      (announced.entryWire owner 16 0x8001 ((announced.texts airplay).flatMap Dns.labelWire)) :=
  announced.appends_entry named (announced.appends_txtData airplay)

theorem appends_srv {owner hostCells instanceName host : Bytes}
    (named : Appends (name instanceName) owner) (hosted : Appends (name host) hostCells) :
    Appends (announced.srv instanceName host)
      (announced.entryWire owner 33 0x8001 (announced.serviceWire hostCells)) := by
  apply announced.appends_entry named
  have fields := (appends_putNumber 2 0).andThen ((appends_putNumber 2 0).andThen
    ((appends_putNumber 2 announced.port).andThen hosted))
  rw [serviceWire, List.append_assoc, List.append_assoc]
  exact fields

theorem appends_addressRecord {host hostCells : Bytes} (hosted : Appends (name host) hostCells) :
    Appends (announced.addressRecord host)
      (announced.entryWire hostCells 1 0x8001 announced.address) := by
  have fields := hosted.andThen ((appends_putNumber 2 1).andThen
    ((appends_putNumber 2 0x8001).andThen ((appends_putNumber 4 announced.ttl).andThen
      ((appends_putNumber 2 4).andThen (appends_put announced.address)))))
  rw [entryWire, announced.address_length, List.append_assoc, List.append_assoc,
    List.append_assoc, List.append_assoc]
  exact fields

theorem appends_service {service : Dns.Name} {text : Bytes} (same : text = dotted service)
    (some : service ≠ []) (plain : ∀ text ∈ service, Plain text) :
    Appends (name text) (Dns.nameWire service) := by
  rw [same]
  exact appends_name some plain

/-- Whatever cells the names are written as, the packet has the same records. -/
theorem appends_buildPacket {raop air host : Bytes}
    (raopNamed : Appends (name announced.raopText) raop)
    (airNamed : Appends (name announced.airText) air)
    (hostNamed : Appends (name announced.hostText) host) :
    Appends announced.buildPacket (headerWire ++ announced.recordsWire raop air host) := by
  obtain ⟨raopLength, airLength, hostLength⟩ := announced.texts_length
  have raopService : Appends (name (ascii "_raop._tcp.local")) (Dns.nameWire raopService) :=
    appends_service (by decide) (by decide) (by decide)
  have airService : Appends (name (ascii "_airplay._tcp.local")) (Dns.nameWire airplayService) :=
    appends_service (by decide) (by decide) (by decide)
  have services := (announced.appends_ptr raopService raopNamed).andThen <|
    (announced.appends_srv raopNamed hostNamed).andThen <|
    (announced.appends_txtRecord false raopNamed).andThen <|
    (announced.appends_ptr airService airNamed).andThen <|
    (announced.appends_srv airNamed hostNamed).andThen <|
    (announced.appends_txtRecord true airNamed).andThen <|
    announced.appends_addressRecord hostNamed
  have packet := (appends_putNumber 2 0).andThen <| (appends_putNumber 2 0x8400).andThen <|
    (appends_putNumber 2 0).andThen <| (appends_putNumber 2 7).andThen <|
    (appends_putNumber 2 0).andThen <| (appends_putNumber 2 0).andThen services
  have raopPrinted : printed 220 announced.raopText = announced.raopText :=
    printed_eq (raopLength.trans_lt (by decide))
  have airPrinted : printed 180 announced.airText = announced.airText :=
    printed_eq (airLength.trans_lt (by decide))
  have hostPrinted : printed 140 announced.hostText = announced.hostText :=
    printed_eq (hostLength.trans_lt (by decide))
  unfold raopText at raopPrinted
  unfold airText at airPrinted
  unfold hostText at hostPrinted
  have cells : ∀ records : Bytes, headerWire ++ records =
      Octets.ofNat 2 0 ++ (Octets.ofNat 2 0x8400 ++ (Octets.ofNat 2 0 ++ (Octets.ofNat 2 7 ++
        (Octets.ofNat 2 0 ++ (Octets.ofNat 2 0 ++ records))))) := by
    intro records
    simp only [headerWire, List.append_assoc]
  rw [cells]
  unfold buildPacket
  simp only [raopPrinted, airPrinted, hostPrinted]
  exact packet

/-! ## Names that can be read back -/

def recordsOf (raop air host : Dns.Name) : List Dns.Record :=
  [announced.record raopService 12 1 (.pointer raop),
    announced.record raop 33 0x8001 (.service 0 0 announced.port host),
    announced.record raop 16 0x8001 (.text announced.raopTexts),
    announced.record airplayService 12 1 (.pointer air),
    announced.record air 33 0x8001 (.service 0 0 announced.port host),
    announced.record air 16 0x8001 (.text announced.airplayTexts),
    announced.record host 1 0x8001 (.address announced.address)]

theorem recordsWire_names (raop air host : Dns.Name) :
    headerWire ++ announced.recordsWire (Dns.nameWire raop) (Dns.nameWire air)
        (Dns.nameWire host) =
      Dns.responseWire 0x8400 (announced.recordsOf raop air host) := by
  rw [Dns.responseWire, headerWire, recordsWire, recordsOf]
  simp only [List.flatMap_cons, List.flatMap_nil, List.append_nil, List.length_cons,
    List.length_nil]
  rfl

structure Sized (raop air host : Dns.Name) : Prop where
  raopSize : raop.size ≤ 80
  airSize : air.size ≤ 70
  hostSize : host.size ≤ 56

structure Spelled (raop air host : Dns.Name) : Prop extends Sized raop air host where
  raopLabels : ∀ label ∈ raop, label ≠ [] ∧ label.length ≤ 63
  airLabels : ∀ label ∈ air, label ≠ [] ∧ label.length ≤ 63
  hostLabels : ∀ label ∈ host, label ≠ [] ∧ label.length ≤ 63

variable {announced} {raop air host : Dns.Name}

theorem raopService_size : raopService.size = 18 := by decide

theorem airplayService_size : airplayService.size = 21 := by decide

theorem record_size (owner : Dns.Name) (type class_ : Nat) (data : Dns.Data) :
    (Dns.recordWire (announced.record owner type class_ data)).length =
      owner.size + 10 + (Dns.dataWire data).length := by
  simp only [Dns.recordWire, record, List.length_append, Dns.nameWire_length,
    Octets.length_ofNat]

theorem Sized.response_size (sized : Sized raop air host) :
    (Dns.responseWire 0x8400 (announced.recordsOf raop air host)).length ≤ mdnsMax := by
  have raopSize := sized.raopSize
  have airSize := sized.airSize
  have hostSize := sized.hostSize
  have raopTxt := (announced.fits_texts false).1
  have airplayTxt := (announced.fits_texts true).1
  have address := announced.address_length
  have raopService := raopService_size
  have airplayService := airplayService_size
  simp only [texts, Bool.false_eq_true, if_false, if_true] at raopTxt airplayTxt
  simp only [Dns.responseWire, recordsOf, List.flatMap_cons, List.flatMap_nil,
    List.length_append, Octets.length_ofNat, record_size, Dns.dataWire, Dns.nameWire_length,
    List.length_nil, mdnsMax]
  omega

theorem valid_record {owner : Dns.Name} {type class_ : Nat} {data : Dns.Data}
    (named : owner.Valid) (kind : type < 2 ^ 16 ∧ class_ < 2 ^ 16)
    (size : (Dns.dataWire data).length ≤ 266) (fits : data.Valid type) :
    (announced.record owner type class_ data).Valid where
  owner := named
  type := kind.1
  class_ := kind.2
  ttl := announced.ttl_lt
  rdata := rfl
  size := Nat.lt_of_le_of_lt size (by decide)
  data := fits

theorem valid_ptr {owner target : Dns.Name} (named : owner.Valid) (pointed : target.Valid) :
    (announced.record owner 12 1 (.pointer target)).Valid := by
  refine valid_record named (by decide) ?_ ⟨rfl, pointed⟩
  rw [Dns.dataWire, Dns.nameWire_length]
  exact pointed.size.trans (by decide)

theorem valid_srv {owner host : Dns.Name} (named : owner.Valid) (hosted : host.Valid) :
    (announced.record owner 33 0x8001 (.service 0 0 announced.port host)).Valid := by
  refine valid_record named (by decide) ?_
    ⟨rfl, by decide, by decide, announced.port_lt, hosted⟩
  have size := hosted.size
  simp only [Dns.dataWire, List.length_append, Octets.length_ofNat, Dns.nameWire_length]
  omega

theorem valid_txtRecord {owner : Dns.Name} (named : owner.Valid) (airplay : Bool) :
    (announced.record owner 16 0x8001 (.text (announced.texts airplay))).Valid := by
  obtain ⟨size, short⟩ := announced.fits_texts airplay
  exact valid_record named (by decide) (size.trans (by decide)) ⟨rfl, short⟩

theorem Spelled.records_valid (spelled : Spelled raop air host) :
    ∀ record ∈ announced.recordsOf raop air host, record.Valid := by
  have raopValid : raop.Valid := ⟨spelled.raopLabels, spelled.raopSize.trans (by decide)⟩
  have airValid : air.Valid := ⟨spelled.airLabels, spelled.airSize.trans (by decide)⟩
  have hostValid : host.Valid := ⟨spelled.hostLabels, spelled.hostSize.trans (by decide)⟩
  have raopService : raopService.Valid := ⟨by decide, by decide⟩
  have airplayService : airplayService.Valid := ⟨by decide, by decide⟩
  simp only [recordsOf, List.forall_mem_cons]
  refine ⟨?_, ?_, ?_, ?_, ?_, ?_, ?_, fun record none => by cases none⟩
  · exact valid_ptr raopService raopValid
  · exact valid_srv raopValid hostValid
  · exact valid_txtRecord raopValid false
  · exact valid_ptr airplayService airValid
  · exact valid_srv airValid hostValid
  · exact valid_txtRecord airValid true
  · exact valid_record hostValid (by decide) (announced.address_length.le.trans (by decide))
      ⟨rfl, announced.address_length⟩

theorem appends_stack {writer : Writer} {cells : Bytes} {size : Nat}
    (appends : Appends writer cells) (stack : Stack size) (room : cells.length ≤ size) :
    writer (stack.1, 0) = some (cells ++ stack.1.drop cells.length, cells.length) := by
  have whole := appends [] stack.1 (room.trans stack.2.ge)
  rwa [List.nil_append, List.nil_append] at whole

theorem Sized.announce (sized : Sized raop air host)
    (raopNamed : Appends (name announced.raopText) (Dns.nameWire raop))
    (airNamed : Appends (name announced.airText) (Dns.nameWire air))
    (hostNamed : Appends (name announced.hostText) (Dns.nameWire host))
    (packet : Stack mdnsMax) :
    announced.announce packet =
      some (Dns.responseWire 0x8400 (announced.recordsOf raop air host)) := by
  have appends := announced.appends_buildPacket raopNamed airNamed hostNamed
  rw [recordsWire_names] at appends
  rw [Announced.announce, appends_stack appends packet sized.response_size, Option.map_some]
  exact congrArg some List.take_left

theorem count_recordsOf : (announced.recordsOf raop air host).length < 2 ^ 16 := by
  have seven : (announced.recordsOf raop air host).length = 7 := rfl
  rw [seven]
  decide

theorem Spelled.decode (spelled : Spelled raop air host) :
    Dns.decode (Dns.responseWire 0x8400 (announced.recordsOf raop air host)) =
      some
        { id := 0, flags := 0x8400, questions := [], answers := announced.recordsOf raop air host,
          authority := [], additional := [] } :=
  Dns.decode_responseWire (by decide) count_recordsOf spelled.records_valid

end Announced

/-! ## Device names without dots -/

namespace Identity

variable (identity : Identity)

def raopName : Dns.Name := (identity.deviceId ++ 64 :: identity.deviceName) :: raopService

def airplayName : Dns.Name := identity.deviceName :: airplayService

def hostName : Dns.Name := [identity.deviceName, ascii "local"]

def records : List Dns.Record :=
  [identity.record raopService 12 1 (.pointer identity.raopName),
    identity.record identity.raopName 33 0x8001 (.service 0 0 identity.port identity.hostName),
    identity.record identity.raopName 16 0x8001 (.text identity.raopTexts),
    identity.record airplayService 12 1 (.pointer identity.airplayName),
    identity.record identity.airplayName 33 0x8001 (.service 0 0 identity.port identity.hostName),
    identity.record identity.airplayName 16 0x8001 (.text identity.airplayTexts),
    identity.record identity.hostName 1 0x8001 (.address identity.address)]

theorem plain_deviceName : Plain identity.deviceName := by
  obtain ⟨least, most⟩ := identity.deviceName_length
  exact ⟨List.ne_nil_of_length_pos least, most.trans (by decide), identity.deviceName_undotted⟩

theorem plain_raop : Plain (identity.deviceId ++ 64 :: identity.deviceName) := by
  have size := identity.deviceId_length
  obtain ⟨_, most⟩ := identity.deviceName_length
  refine ⟨?_, ?_, ?_⟩
  · exact List.append_ne_nil_of_right_ne_nil _ (List.cons_ne_nil _ _)
  · rw [List.length_append, List.length_cons]
    omega
  · intro dot
    rcases List.mem_append.mp dot with inId | inRest
    · exact absurd (identity.deviceId_digits 46 inId) (by decide)
    · rcases List.mem_cons.mp inRest with at_ | inName
      · exact absurd at_ (by decide)
      · exact identity.deviceName_undotted inName

theorem plain_raopName : ∀ text ∈ identity.raopName, Plain text := by
  have service : ∀ text ∈ raopService, Plain text := by decide
  exact List.forall_mem_cons.mpr ⟨identity.plain_raop, service⟩

theorem plain_airplayName : ∀ text ∈ identity.airplayName, Plain text := by
  have service : ∀ text ∈ airplayService, Plain text := by decide
  exact List.forall_mem_cons.mpr ⟨identity.plain_deviceName, service⟩

theorem plain_hostName : ∀ text ∈ identity.hostName, Plain text := by
  have domain : ∀ text ∈ [ascii "local"], Plain text := by decide
  exact List.forall_mem_cons.mpr ⟨identity.plain_deviceName, domain⟩

theorem appends_raopName :
    Appends (name identity.raopText) (Dns.nameWire identity.raopName) := by
  have text : identity.raopText = dotted identity.raopName := by
    have service : ascii "._raop._tcp.local" = 46 :: dotted raopService := by decide
    have at_ : ascii "@" = [64] := rfl
    show _ = (identity.deviceId ++ 64 :: identity.deviceName) ++ 46 :: dotted raopService
    rw [Announced.raopText, service, at_]
    simp only [List.append_assoc, List.cons_append, List.nil_append]
  rw [text]
  exact appends_name (List.cons_ne_nil _ _) identity.plain_raopName

theorem appends_airplayName :
    Appends (name identity.airText) (Dns.nameWire identity.airplayName) := by
  have service : ascii "._airplay._tcp.local" = 46 :: dotted airplayService := by decide
  rw [Announced.airText, service]
  exact appends_name (List.cons_ne_nil _ _) identity.plain_airplayName

theorem appends_hostName :
    Appends (name identity.hostText) (Dns.nameWire identity.hostName) := by
  have domain : ascii ".local" = 46 :: ascii "local" := by decide
  rw [Announced.hostText, domain]
  exact appends_name (List.cons_ne_nil _ _) identity.plain_hostName

theorem spelled : Announced.Spelled identity.raopName identity.airplayName identity.hostName := by
  have id := identity.deviceId_length
  obtain ⟨_, most⟩ := identity.deviceName_length
  have raop : (raopService.map fun label => label.length + 1).sum = 17 := by decide
  have airplay : (airplayService.map fun label => label.length + 1).sum = 20 := by decide
  have domain : ([ascii "local"].map fun label => label.length + 1).sum = 6 := by decide
  have valid : ∀ {labels : Dns.Name}, (∀ text ∈ labels, Plain text) →
      ∀ label ∈ labels, label ≠ [] ∧ label.length ≤ 63 :=
    fun plain label membership => ⟨(plain label membership).1, (plain label membership).2.1⟩
  refine ⟨⟨?_, ?_, ?_⟩, valid identity.plain_raopName, valid identity.plain_airplayName,
    valid identity.plain_hostName⟩
  · rw [Dns.Name.size, raopName, List.map_cons, List.sum_cons, raop, List.length_append,
      List.length_cons]
    omega
  · rw [Dns.Name.size, airplayName, List.map_cons, List.sum_cons, airplay]
    omega
  · rw [Dns.Name.size, hostName, List.map_cons, List.sum_cons, domain]
    omega

/-! ## Results -/

theorem mdnsTxt_eq (airplay : Bool) (data : Stack 512) :
    identity.mdnsTxt airplay data 512 =
      some ((identity.texts airplay).flatMap Dns.labelWire) := by
  have size : ((identity.texts airplay).flatMap Dns.labelWire).length ≤ 512 :=
    (identity.fits_texts airplay).1.trans (by decide)
  rw [Announced.mdnsTxt, Announced.appends_stack (identity.appends_txtData airplay) data size,
    Option.map_some]
  show some (if 512 < _ then _ else _) = _
  rw [if_neg (Nat.not_lt.mpr size), List.take_left]

/-- The announcement fits its buffer, and is a DNS response with the records of
the two services, whose strings are the ones that `/info` tells. -/
theorem announcement_decodes (packet : Stack mdnsMax) :
    ∃ sent, identity.announce packet = some sent ∧ sent.length ≤ mdnsMax ∧
      Dns.decode sent = some
        { id := 0, flags := 0x8400, questions := [], answers := identity.records,
          authority := [], additional := [] } ∧
      (∀ record ∈ identity.records, ∀ label ∈ record.owner ++ record.data.target,
        label.length ≤ 63) ∧
      ∀ data : Stack 512,
        identity.mdnsTxt false data 512 = identity.records[2]?.map Dns.Record.rdata ∧
          identity.mdnsTxt true data 512 = identity.records[5]?.map Dns.Record.rdata := by
  have announced := identity.spelled.announce identity.appends_raopName
    identity.appends_airplayName identity.appends_hostName packet
  refine ⟨_, announced, identity.spelled.response_size, identity.spelled.decode, ?_, fun data => ⟨?_, ?_⟩⟩
  · exact fun record membership => (identity.spelled.records_valid record membership).labels
  · rw [mdnsTxt_eq]
    rfl
  · rw [mdnsTxt_eq]
    rfl

end Identity

end AirTizen.Discovery
