import SecurityWallet.Server
import SecurityWallet.Foundation.Aes
import SecurityWallet.Foundation.Base64
import SecurityWallet.Foundation.Sha256

/-!
# A platform

Functions for all the code outside the wallet that meet everything the wallet relies on: JSON,
AES-256-CBC, SHA-256 and base64. A pattern is taken literally and no text is a certificate.
-/

open Foundation SerializationInfo

namespace Secw.Reference

def zero : Block := ⟨⟨0, 0, 0, 0⟩, ⟨0, 0, 0, 0⟩, ⟨0, 0, 0, 0⟩, ⟨0, 0, 0, 0⟩⟩

/-- The cipher under a key of 32 bytes. -/
def aes256 (key : ByteField) : BlockCipher :=
  let blocks := (Block.split key).1
  Aes.cipher (blocks.getD 0 zero, blocks.getD 1 zero)

def initialVector (iv : ByteField) : Block := (Block.split iv).1.getD 0 zero

def layout (beautify : Bool) : Json.Layout := if beautify then .indented else .compact

def parse (bytes : List UInt8) : Except String Json :=
  match (String.fromUTF8? ⟨bytes.toArray⟩).bind Json.parse with
  | some si => .ok si
  | none => .error "syntax error"

theorem parse_strToBytes {text : String} {si : Json} (hparse : Json.parse text = some si) :
    parse (strToBytes text) = .ok si := by
  have hbytes : (⟨(strToBytes text).toArray⟩ : ByteArray) = text.toByteArray := by simp [strToBytes]
  have htext : String.fromUTF8? text.toByteArray = some text := by
    rw [String.fromUTF8?, dif_pos text.isValidUTF8]
    rfl
  rw [parse, hbytes, htext, Option.bind_some, hparse]

def getString : Json → Except String String
  | .null => .ok ""
  | .str s => .ok s
  | .int n => .ok (toString n)
  | .bool b => .ok (toString b)
  | _ => .error "no value"

def getUInt8 : Json → Except String UInt8
  | .int n => if 0 ≤ n ∧ n < 256 then .ok (UInt8.ofNat n.toNat) else .error "value out of range"
  | _ => .error "no number"

def getBool : Json → Except String Bool
  | .bool b => .ok b
  | _ => .error "no truth value"

def getUInt32 : Json → Except String UInt32
  | .int n => if 0 ≤ n ∧ n < 2 ^ 32 then .ok (UInt32.ofNat n.toNat) else .error "value out of range"
  | _ => .error "no number"

scoped instance platform : Platform where
  serialize beautify si := Json.print (layout beautify) si
  deserialize := parse
  getString := getString
  getUInt8 := getUInt8
  memberNotFound name := "Missing info for member '" ++ name ++ "'"
  sha256 := Sha256.digest
  encryptUpdate key iv data := (aes256 key).encryptUpdate (initialVector iv) data
  encryptFinal key iv data := (aes256 key).encryptFinal (initialVector iv) data
  decryptUpdate key iv data := (aes256 key).decryptUpdate (initialVector iv) data
  decryptFinal key iv data := (aes256 key).decryptFinal (initialVector iv) data
  base64Write data := Base64.text (Base64.encode data)
  base64Read bytes := Base64.decode bytes
  isCertificate _ := false
  certificatePublicKey _ := none
  keysPublicKey _ := none
  regexMatch text pattern := .ok (pattern = "^" ++ text ++ "$")

scoped instance : LawfulCxxtools where
  deserialize_serialize beautify si := parse_strToBytes (Json.parse_print (layout beautify) si)
  getString_str _ := rfl
  getUInt8_ofUInt8 n := by
    have hn := n.toNat_lt
    change getUInt8 (.int n.toNat) = .ok n
    rw [getUInt8, if_pos (by omega), Int.toNat_natCast, UInt8.ofNat_toNat]

scoped instance : CxxtoolsTexts where
  serialize_ne_empty beautify si htext := by
    have hparse := Json.parse_print (layout beautify) si
    rw [show Json.print (layout beautify) si = "" from htext, show Json.parse "" = none from rfl]
      at hparse
    cases hparse
  serialize_ne_error beautify si htext := by
    have hparse := Json.parse_print (layout beautify) si
    rw [show Json.print (layout beautify) si = "ERROR" from htext, show Json.parse "ERROR" = none from rfl]
      at hparse
    cases hparse

scoped instance : CxxtoolsEmptyText where
  deserialize_nil := ⟨"syntax error", rfl⟩

scoped instance : CxxtoolsClient where
  getBool := getBool
  getUInt32 := getUInt32

scoped instance : LawfulCxxtoolsClient where
  getBool_bool _ := rfl
  getUInt32_ofUInt32 n := by
    have hn := n.toNat_lt
    change getUInt32 (.int n.toNat) = .ok n
    rw [getUInt32, if_pos (by omega), Int.toNat_natCast, UInt32.ofNat_toNat]

scoped instance : LawfulOpenSSL where
  length_sha256 _ := rfl
  encrypt_ne_nil key iv data := BlockCipher.encrypt_ne_nil _ _ data
  decrypt_encrypt key iv data _ _ := BlockCipher.decrypt_encrypt _ _ data
  base64Read_write data _ := by
    change Base64.decode (strToBytes (Base64.text (Base64.encode data))) = some data
    rw [strToBytes, Base64.bytes_text Base64.lt_of_mem_encode, Base64.decode_encode]
  length_base64Write iv hiv := by
    change (strToBytes (Base64.text (Base64.encode iv))).length = ivBase64Size
    rw [strToBytes, Base64.bytes_text Base64.lt_of_mem_encode, Base64.length_encode, hiv]
    rfl

/-! ### Sources -/

/-- Ids that are the numbers in order. -/
def uuids : UuidSource where
  draw n := String.ofList (Nat.toDigits 10 n)
  live used n := by
    have hinjective : Function.Injective fun n => String.ofList (Nat.toDigits 10 n) := by
      intro m n heq
      have hdigits := congrArg (Nat.ofDigitChars 10 · 0) (String.ofList_injective heq)
      simpa only [Nat.ofDigitChars_ten_toDigits] using hdigits
    have hused : {k | String.ofList (Nat.toDigits 10 k) ∈ used.toList}.Finite :=
      used.toList.finite_toSet.preimage hinjective.injOn
    obtain ⟨k, hk, hlt⟩ := hused.infinite_compl.exists_gt n
    exact ⟨k, hlt.le, fun hmem => hk (Std.ExtTreeSet.mem_toList.2 hmem)⟩

/-- A generator that always gives zeros. -/
def randoms : RandomSource where
  draw _ nbBytes := some (List.replicate nbBytes 0)
  length_draw := by
    rintro _ nbBytes _ ⟨⟩
    exact List.length_replicate

/-! ### A wallet -/

/-- A client that consumes or produces one usage. -/
def clientSi (client : String) (usage : UsageId) : SerializationInfo :=
  addMember (addMember .null "client_regex" (.str client)) "usages" (.arr [.str usage])

def usageSi (usage : UsageId) (type : DocumentType) : SerializationInfo :=
  addMember (addMember .null "usage_id" (.str usage)) "supported_types" (.arr [.str type])

/-- Two usages, each consumed and produced by a client of its own. -/
def configurationSi : SerializationInfo :=
  let si := addMember .null "portfolio_name" (.str "default")
  let si := addMember si "usages"
    (.arr [usageSi "u1" "UserAndPassword", usageSi "u2" "UserAndPassword"])
  let si := addMember si "consumers" (.arr [clientSi "alice" "u1", clientSi "bob" "u2"])
  addMember si "producers" (.arr [clientSi "alice" "u1", clientSi "bob" "u2"])

def client (clientRegex : String) (usage : UsageId) : Client where
  clientRegex
  usages := Std.ExtTreeSet.ofList [usage]

def configuration : PortfolioConfiguration where
  portfolioName := "default"
  usages := StdMap.indexBy Usage.usageId
    [{ usageId := "u1", types := Std.ExtTreeSet.ofList ["UserAndPassword"] },
      { usageId := "u2", types := Std.ExtTreeSet.ofList ["UserAndPassword"] }] ∅
  supportedTypes := Std.ExtTreeSet.ofList
    ([{ usageId := "u1", types := Std.ExtTreeSet.ofList ["UserAndPassword"] },
      { usageId := "u2", types := Std.ExtTreeSet.ofList ["UserAndPassword"] }].flatMap
      fun usage : Usage => usage.types.toList)
  consumers := [client "alice" "u1", client "bob" "u2"]
  producers := [client "alice" "u1", client "bob" "u2"]

theorem read_configurationSi : PortfolioConfiguration.read configurationSi = .ok configuration :=
  rfl

def configurations : StdMap String PortfolioConfiguration :=
  StdMap.indexBy PortfolioConfiguration.portfolioName [configuration] ∅

theorem lookup_default : configurations["default"]? = some configuration := by
  decide +kernel

theorem keys_configurations : configurations.keys = ["default"] := by
  decide +kernel

theorem usages_of_bob :
    configuration.getUsageIdsForConsummer "bob" = .ok (Std.ExtTreeSet.ofList ["u2"]) ∧
      configuration.getUsageIdsForProducer "bob" = .ok (Std.ExtTreeSet.ofList ["u2"]) := by
  decide +kernel

/-- The files of a platform that has never run the wallet. -/
def disk : Disk where
  configuration := some (Cxxtools.serialize true (.arr [configurationSi]))
  releaseDetails := some (Cxxtools.serialize true
    (addMember .null "release-details" (addMember .null "uuid" (.str "uuid"))))

/-- A document of the usages. -/
def document (usages : List UsageId) (password : String) : Document where
  name := "document"
  id := "0"
  usages := Std.ExtTreeSet.ofList usages
  body := .userAndPassword { username := "user", password }

/-- A portfolio with the one document. -/
def portfolio (doc : Document) : Portfolio := Portfolio.store {} doc.id doc

/-- The files of a platform whose database holds the portfolios. -/
def savedDisk (portfolios : List Portfolio) : Disk :=
  { disk with
    database := some (Cxxtools.serialize true (SecurityWallet.databaseTree portfolios)) }

/-- A server with the portfolios. -/
def server (portfolios : List Portfolio) : SecurityWalletServer where
  activeWallet := { configurations, portfolios, disk := savedDisk portfolios }
  uuids
  randoms

/-- A server with a document of the usage of `alice`. -/
def started : SecurityWalletServer := server [portfolio (document ["u1"] "secret")]

theorem getConfiguration_default (portfolios : List Portfolio) :
    (server portfolios).activeWallet.getConfiguration "default" = .ok configuration := by
  rw [SecurityWallet.getConfiguration, server, lookup_default]

theorem consumerUsages_bob (portfolios : List Portfolio) :
    (server portfolios).activeWallet.consumerUsages "default" "bob" =
      .ok (Std.ExtTreeSet.ofList ["u2"]) := by
  rw [SecurityWallet.consumerUsages, getConfiguration_default]
  exact usages_of_bob.1

theorem producerUsages_bob (portfolios : List Portfolio) :
    (server portfolios).activeWallet.producerUsages "default" "bob" =
      .ok (Std.ExtTreeSet.ofList ["u2"]) := by
  rw [SecurityWallet.producerUsages, getConfiguration_default]
  exact usages_of_bob.2

theorem getHardwareUuid_server (portfolios : List Portfolio) :
    (server portfolios).activeWallet.getHardwareUuid = .ok "uuid" := by
  rw [SecurityWallet.getHardwareUuid, SecurityWallet.readFile]
  change (liftStd (Cxxtools.deserialize (strToBytes (Cxxtools.serialize true _))) >>= _) = _
  rw [LawfulCxxtools.deserialize_serialize]
  rfl

/-- The request of `bob` to create a document of the usage it has. -/
def createRequest : SecurityWalletServer.Request :=
  ⟨"bob", [Command.create.name, "default",
    serialize ((document ["u2"] "secret").fillSerializationInfoWithSecret .null)]⟩

end Secw.Reference
