import SecurityWallet.Document

/-!
# Configuration of a portfolio

Which usages a portfolio has, and which clients consume or produce documents of which usages. A
client is named by a regular expression, so the rights of a sender are the union over the entries
its name matches.
-/

open Foundation SerializationInfo

namespace Secw

abbrev ClientId := String

/-- `std::regex_match` of a text with a pattern, which throws on a pattern it cannot compile. -/
class Regex where
  regexMatch : (text pattern : String) → Except String Bool

structure Usage where
  usageId : UsageId
  types : StdSet String
deriving DecidableEq

structure Client where
  clientRegex : String
  usages : StdSet UsageId
deriving DecidableEq

abbrev Consumer := Client
abbrev Producer := Client

structure PortfolioConfiguration where
  portfolioName : String
  usages : StdMap UsageId Usage
  supportedTypes : StdSet String
  consumers : List Consumer
  producers : List Producer
deriving DecidableEq

namespace Usage

def read [Cxxtools] (si : SerializationInfo) : Except String Usage := do
  let usageId ← getStringMember si "usage_id"
  let types ← getList Cxxtools.getString (← getMember si "supported_types")
  if usageId.isEmpty then throw "usage_id cannot be empty"
  return { usageId, types := Std.ExtTreeSet.ofList types }

end Usage

namespace Client

def read [Cxxtools] (si : SerializationInfo) : Except String Client := do
  let clientRegex ← getStringMember si "client_regex"
  let usages ← getSet (← getMember si "usages")
  return { clientRegex, usages }

def isMatchingClient [Regex] (client : Client) (clientId : ClientId) : Except Exn Bool :=
  liftStd (Regex.regexMatch clientId ("^" ++ client.clientRegex ++ "$"))

/-- The usages of the entries that match a client. -/
def usagesOfMatching [Regex] (clientId : ClientId) :
    List Client → Except Exn (StdSet UsageId)
  | [] => return ∅
  | client :: clients => do
      let isMatching ← client.isMatchingClient clientId
      let usages ← usagesOfMatching clientId clients
      return if isMatching then client.usages ∪ usages else usages

end Client

namespace PortfolioConfiguration

def read [Cxxtools] (si : SerializationInfo) : Except String PortfolioConfiguration := do
  let portfolioName ← getStringMember si "portfolio_name"
  let usages ← getList Usage.read (← getMember si "usages")
  let consumers ← getList Client.read (← getMember si "consumers")
  let producers ← getList Client.read (← getMember si "producers")
  return {
    portfolioName
    usages := StdMap.indexBy Usage.usageId usages ∅
    supportedTypes := Std.ExtTreeSet.ofList (usages.flatMap fun usage => usage.types.toList)
    consumers
    producers }

def getAllUsageId (configuration : PortfolioConfiguration) : StdSet UsageId :=
  Std.ExtTreeSet.ofList configuration.usages.keys

variable [Regex]

def getUsageIdsForConsummer (configuration : PortfolioConfiguration) (clientId : ClientId) :
    Except Exn (StdSet UsageId) :=
  Client.usagesOfMatching clientId configuration.consumers

def getUsageIdsForProducer (configuration : PortfolioConfiguration) (clientId : ClientId) :
    Except Exn (StdSet UsageId) :=
  Client.usagesOfMatching clientId configuration.producers

end PortfolioConfiguration

/-- The usages that are in exactly one of the two sets. -/
def differenceBetween2UsagesIdSet (a b : StdSet UsageId) : StdSet UsageId :=
  Std.ExtTreeSet.ofList
    (a.toList.filter (fun usage => ¬ b.contains usage) ++
      b.toList.filter fun usage => ¬ a.contains usage)

/-- `differenceBetween2UsagesIdSet` is the symmetric difference. -/
theorem mem_differenceBetween2UsagesIdSet (a b : StdSet UsageId) (usage : UsageId) :
    usage ∈ differenceBetween2UsagesIdSet a b ↔ ¬ (usage ∈ a ↔ usage ∈ b) := by
  simp only [differenceBetween2UsagesIdSet, Std.ExtTreeSet.mem_ofList, List.contains_iff_mem,
    List.mem_append, List.mem_filter, Std.ExtTreeSet.mem_toList]
  simp
  tauto

theorem hasCommonUsageIds_iff (usages1 usages2 : StdSet UsageId) :
    hasCommonUsageIds usages1 usages2 = true ↔ ∃ usage, usage ∈ usages1 ∧ usage ∈ usages2 := by
  simp [hasCommonUsageIds]

end Secw
