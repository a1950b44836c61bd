import SecurityWallet.Portfolio

/-!
# The security wallet

The wallet keeps the configurations and the portfolios in memory and the portfolios in a database
file. `reload` reads both files again, `save` rewrites the database, and an SRR restore replaces the
portfolios, saves and reloads.
-/

open Foundation SerializationInfo

namespace Secw

/-- The files the wallet reads and writes; `none` is a file that does not exist. -/
structure Disk where
  configuration : Option String := none
  database : Option String := none
  releaseDetails : Option String := none
deriving DecidableEq

structure SecurityWallet where
  configurations : StdMap String PortfolioConfiguration := ∅
  portfolios : List Portfolio := []
  disk : Disk
deriving DecidableEq

namespace SecurityWallet

def secwVersion : UInt8 := 1

def getPortfolioNames (wallet : SecurityWallet) : List String := wallet.configurations.keys

def getConfiguration (wallet : SecurityWallet) (portfolioName : String) :
    Except Exn PortfolioConfiguration :=
  match wallet.configurations[portfolioName]? with
  | some configuration => .ok configuration
  | none => .error (.secw (secwUnknownPortfolioException portfolioName))

/-- The first portfolio of the name; a reference to it is its place in `portfolios`. -/
def getPortfolio (wallet : SecurityWallet) (name : String) : Except Exn Nat :=
  match wallet.portfolios.findIdx? fun portfolio => portfolio.name = name with
  | some index => .ok index
  | none => .error (.secw (secwUnknownPortfolioException name))

/-- The portfolio a reference stands for. -/
def portfolioAt (wallet : SecurityWallet) (index : Nat) : Portfolio :=
  wallet.portfolios.getD index {}

/-- The document stored under an id in the portfolio at a place. -/
def documentAt (wallet : SecurityWallet) (index : Nat) (id : Id) : Option Document :=
  wallet.portfolios[index]?.bind fun portfolio => portfolio.documents[id]?

def setPortfolio (wallet : SecurityWallet) (index : Nat) (portfolio : Portfolio) :
    SecurityWallet :=
  { wallet with portfolios := wallet.portfolios.set index portfolio }

variable [Platform]

/-- The usages a client consumes in a portfolio. -/
def consumerUsages (wallet : SecurityWallet) (portfolioName : String) (client : ClientId) :
    Except Exn (StdSet UsageId) := do
  (← wallet.getConfiguration portfolioName).getUsageIdsForConsummer client

/-- The usages a client produces in a portfolio. -/
def producerUsages (wallet : SecurityWallet) (portfolioName : String) (client : ClientId) :
    Except Exn (StdSet UsageId) := do
  (← wallet.getConfiguration portfolioName).getUsageIdsForProducer client

/-- A file that is opened without a check reads as empty when it does not exist. -/
def readFile (file : Option String) : Except Exn SerializationInfo :=
  liftStd (Cxxtools.deserialize (strToBytes (file.getD "")))

/-! ### Saving and reloading -/

/-- The tree of the database file. -/
def databaseTree (portfolios : List Portfolio) : SerializationInfo :=
  let rootSi := addMember .null "version" (ofUInt8 secwVersion)
  addMember rootSi "portfolios" (ofList (fun portfolio => portfolio.serializePortfolio .null)
    portfolios)

def save : Effect Exn SecurityWallet Unit :=
  modify fun wallet =>
    { wallet with
      disk.database := some (Cxxtools.serialize true (databaseTree wallet.portfolios)) }

def insertConfigurations :
    List SerializationInfo → Effect Exn (StdMap String PortfolioConfiguration) Unit
  | [] => return
  | portfolioConfigSi :: rest => do
      let config ← liftStd (PortfolioConfiguration.read portfolioConfigSi)
      if (← get).contains config.portfolioName then
        throw (.std
          ("Portfolio " ++ config.portfolioName ++ " already exist in the configuration."))
      modify fun configurations => configurations.insert config.portfolioName config
      insertConfigurations rest

/-- The first part of `reload`: the configurations. -/
def loadConfiguration (file : Option String) :
    Effect Exn (StdMap String PortfolioConfiguration) Unit := do
  if file.isNone then
    throw (.std "File does not exist!")
  let rootSi ← readFile file
  insertConfigurations (children rootSi)
  if (← get).isEmpty then
    throw (.std "No Portfolio in the configuration.")

/-- Reading into a vector of portfolios: each one is appended and then read in place. -/
def loadPortfolios : List SerializationInfo → Effect Exn (List Portfolio) Unit
  | [] => return
  | si :: rest => do
      let (outcome, portfolio) := (Portfolio.loadPortfolio si).exec {}
      modify fun portfolios => portfolios ++ [portfolio]
      outcome
      loadPortfolios rest

/-- The portfolios, with an empty one for each configured name that none of them has. -/
def addMissingPortfolios (names : List String) (portfolios : List Portfolio) : List Portfolio :=
  names.foldl
    (fun portfolios name =>
      if portfolios.any fun portfolio => portfolio.name = name then portfolios
      else portfolios ++ [{ name := name }])
    portfolios

/-- The second part of `reload`: the portfolios; `names` are the configured ones. -/
def loadDatabase (file : Option String) (names : List String) :
    Effect Exn (List Portfolio) Unit := do
  if file.isSome then
    let rootSi ← readFile file
    let version ← liftStd (getUInt8Member rootSi "version")
    if version = 1 then
      let portfolios ← liftStd (getMember rootSi "portfolios")
      set ([] : List Portfolio)
      loadPortfolios (children portfolios)
  modify (addMissingPortfolios names)

def onConfigurations {α : Type} (act : Effect Exn (StdMap String PortfolioConfiguration) α) :
    Effect Exn SecurityWallet α :=
  Effect.zoom configurations (fun configurations wallet => { wallet with configurations }) act

def onPortfolios {α : Type} (act : Effect Exn (List Portfolio) α) : Effect Exn SecurityWallet α :=
  Effect.zoom portfolios (fun portfolios wallet => { wallet with portfolios }) act

def reload : Effect Exn SecurityWallet Unit := do
  modify fun wallet => { wallet with configurations := ∅, portfolios := [] }
  let disk := (← get).disk
  onConfigurations (loadConfiguration disk.configuration)
  let names := (← get).configurations.keys
  onPortfolios (loadDatabase disk.database names)

/-- The body of the constructor. -/
def start : Effect Exn SecurityWallet Unit := do
  reload
  save

/-- The constructor; `none` is the process that exits with `EXIT_FAILURE`. -/
def construct (disk : Disk) : Option SecurityWallet :=
  match start.exec { disk } with
  | (.ok _, wallet) => some wallet
  | (.error _, _) => none

/-! ### Save, restore and reset -/

def getHardwareUuid (wallet : SecurityWallet) : Except Exn String := do
  let si ← readFile wallet.disk.releaseDetails
  let releaseDetails ← liftStd (getMember si "release-details")
  liftStd (getStringMember releaseDetails "uuid")

def getSrrSaveData (wallet : SecurityWallet) (passphrase : String) :
    Effect Exn RandomSource SerializationInfo := do
  if (strToBytes passphrase).length < 8 then
    throw (.std "Passphrase must be at least 8 characters!")
  let si := addMember .null "check_passphrase" (.str (← encrypt passphrase passphrase))
  let uuid ← wallet.getHardwareUuid
  let si := addMember si "check_platform" (.str (← encrypt uuid passphrase))
  let portfolios ← wallet.portfolios.mapM fun portfolio =>
    portfolio.serializePortfolioSRR passphrase .null
  return addMember si "portfolios" (.arr portfolios)

/-- Everything a restore does before it installs the portfolios. -/
def readSRRData (wallet : SecurityWallet) (si : SerializationInfo) (passphrase version : String) :
    Except Exn (List Portfolio) := do
  if version ≠ "1.0" then
    throw (.std ("Version " ++ version ++ " is not supported"))
  if (strToBytes passphrase).length < 8 then
    throw (.std "Bad passphrase")
  let receivedPassphrase ← liftStd (getStringMember si "check_passphrase")
  if strToBytes passphrase ≠ (← decrypt receivedPassphrase passphrase) then
    throw (.std "Bad passphrase")
  let receivedUuid ← liftStd (getStringMember si "check_platform")
  let uuid ← wallet.getHardwareUuid
  let isSamePlatform := decide (strToBytes uuid = (← decrypt receivedUuid passphrase))
  let portfolios ← liftStd (getMember si "portfolios")
  (children portfolios).mapM fun portfolioSi =>
    (Portfolio.loadPortfolioFromSRR portfolioSi passphrase isSamePlatform).result {}

def restoreSRRData (si : SerializationInfo) (passphrase version : String) :
    Effect Exn SecurityWallet Unit := do
  let wallet ← get
  let listPortfolio ← wallet.readSRRData si passphrase version
  modify fun wallet => { wallet with portfolios := listPortfolio }
  save
  reload

end SecurityWallet

end Secw
