import OpenFsd.Fsd.AddPackets
import OpenFsd.Fsd.HttpService
import OpenFsd.Web.ApiText

namespace OpenFsd
namespace Web

open Db JsonText
open Fsd (PlainField)

/-!
# The public documents

A client of the network finds the FSD server through documents that need no
login: a status document names the lists of servers, and a list names the host.
All of them are there twice, as JSON and as lines of text.  The lists have the
server under its own name and as `AUTOMATIC`.

A setting may hold any bytes.  The JSON documents escape what they have to; the
texts do not, so the two lists agree for some settings only.  Following either
status document leads to the host.
-/

/-! ## The settings -/

structure ServerInfo where
  ident : Bytes
  hostname : Bytes
  location : Bytes

/-- `getFsdServerInfo`, where the reads of some keys fail. -/
def getFsdServerInfo (fails : Bytes -> Bool) (database : Database) : Except DbError ServerInfo :=
  match database.getConfig (fails configFsdServerIdent) configFsdServerIdent with
  | .error reason => .error reason
  | .ok ident =>
      match database.getConfig (fails configFsdServerHostname) configFsdServerHostname with
      | .error reason => .error reason
      | .ok hostname =>
          match database.getConfig (fails configFsdServerLocation) configFsdServerLocation with
          | .error reason => .error reason
          | .ok location => .ok ⟨ident, hostname, location⟩

/-- A status, a header if one is set, and a text. -/
structure DataPage where
  status : Nat
  contentType : Option Bytes
  body : Bytes

/-- `getBaseURLOrErr` -/
def getBaseURLOrErr (fails : Bytes -> Bool) (database : Database) : Except DataPage Bytes :=
  match database.getConfig (fails configApiServerBaseURL) configApiServerBaseURL with
  | .error .keyNotFound => .error ⟨500, none, bytes "API server base URL is not set in the config"⟩
  | .error _ => .error ⟨500, none, []⟩
  | .ok baseURL => .ok baseURL

/-! ## The documents -/

structure DataJsonServer where
  ident : Bytes
  hostnameOrIp : Bytes
  location : Bytes
  name : Bytes
  clientsConnectionAllowed : Int
  clientConnectionsAllowed : Bool
  isSweatbox : Bool
  deriving DecidableEq

/-- The server, and the entry that leaves the choice to the client. -/
def serverList (info : ServerInfo) (isSweatbox : Bool) : List DataJsonServer :=
  [⟨info.ident, info.hostname, info.location, info.ident, 99, true, isSweatbox⟩,
   ⟨bytes "AUTOMATIC", info.hostname, info.location, info.ident, 99, true, isSweatbox⟩]

def DataJsonServer.json (server : DataJsonServer) : JsonValue :=
  .object [(bytes "ident", .text server.ident),
    (bytes "hostname_or_ip", .text server.hostnameOrIp),
    (bytes "location", .text server.location), (bytes "name", .text server.name),
    (bytes "clients_connection_allowed", .number (itoa server.clientsConnectionAllowed)),
    (bytes "client_connections_allowed", .bool server.clientConnectionsAllowed),
    (bytes "is_sweatbox", .bool server.isSweatbox)]

/-- A map is marshalled in the order of its keys. -/
def statusJson (baseURL : Bytes) : JsonValue :=
  .object [(bytes "data", .object [
    (bytes "servers", .array [.text (baseURL ++ bytes "/api/v1/data/openfsd-servers.json")]),
    (bytes "servers_all", .array [.text (baseURL ++ bytes "/api/v1/data/all-servers.json")]),
    (bytes "servers_sweatbox",
      .array [.text (baseURL ++ bytes "/api/v1/data/sweatbox-servers.json")]),
    (bytes "v3", .array [.text (baseURL ++ bytes "/api/v1/data/openfsd-data.json")])])]

/-- `strings.ReplaceAll` with the line ends. -/
def carriageReturns (text : Bytes) : Bytes :=
  text.flatMap fun b => if b = lineFeed then crlf else [b]

/-- The lines of a text, each with its end. -/
def unlines (lines : List Bytes) : Bytes :=
  lines.flatMap fun line => line ++ [lineFeed]

/-- The lines of `status.txt`. -/
def statusTxtLines (apiServerBaseURL : Bytes) : List Bytes :=
  [bytes "; IMPORTANT NOTE: This file can change as data sources change." ++
      bytes " Please check at regular intervals.",
   bytes ";",
   bytes "; PEOPLE UTILISING THIS FEED ARE STRONGLY ENCOURAGED TO MIGRATE TO " ++
      (apiServerBaseURL ++ bytes "/api/v1/data/status.json"),
   bytes ";",
   bytes "; Data formats are:",
   bytes ";",
   bytes "; 120128:NOTCP - used by WhazzUp only",
   bytes "; json3        - JSON Data Version 3",
   bytes "; url1         - URLs where servers list data files are available." ++
      bytes " Please choose one randomly every time",
   bytes ";",
   bytes ";",
   bytes "120218:NOTCP",
   bytes ";",
   bytes "json3=" ++ (apiServerBaseURL ++ bytes "/api/v1/data/openfsd-data.json"),
   bytes ";",
   bytes "url1=" ++ (apiServerBaseURL ++ bytes "/api/v1/data/openfsd-servers.txt"),
   bytes ";",
   bytes "servers.live=" ++ (apiServerBaseURL ++ bytes "/api/v1/data/openfsd-servers.txt"),
   bytes ";",
   bytes "voice0=afv",
   bytes ";",
   bytes "; END"]

/-- `status.txt`, which ends with a blank behind the last line. -/
def statusTxtTemplate (apiServerBaseURL : Bytes) : Bytes :=
  unlines (statusTxtLines apiServerBaseURL) ++ bytes " "

/-- The range of `servers.txt`: a line feed before every entry but the first. -/
def serversTxtEntries : List DataJsonServer -> Bytes
  | [] => []
  | [server] => serversTxtEntry server
  | server :: rest => serversTxtEntry server ++ lineFeed :: serversTxtEntries rest
where
  serversTxtEntry (server : DataJsonServer) : Bytes :=
    server.ident ++ colon :: (server.hostnameOrIp ++ colon :: (server.location ++ colon ::
      (server.name ++ colon :: (itoa server.clientsConnectionAllowed ++ [colon]))))

/-- The first lines of `servers.txt`. -/
def serversTxtHeader : List Bytes :=
  [bytes "!GENERAL:", bytes "VERSION = 8", bytes "RELOAD = 2", bytes "UPDATE = 20220401021210",
    bytes "ATIS ALLOW MIN = 5", bytes "CONNECTED CLIENTS = 1", bytes ";", bytes ";",
    bytes "!SERVERS:"]

/-- `servers.txt` -/
def serversTxtTemplate (servers : List DataJsonServer) : Bytes :=
  unlines serversTxtHeader ++ (serversTxtEntries servers ++
    lineFeed :: unlines [bytes ";", bytes ";   END"])

def generateStatusTxt (baseURL : Bytes) : Bytes :=
  carriageReturns (statusTxtTemplate baseURL)

def generateServersTxt (info : ServerInfo) : Bytes :=
  carriageReturns (serversTxtTemplate (serverList info false))

/-! ## The handlers -/

def handleGetStatusTxt (fails : Bytes -> Bool) (database : Database) : DataPage :=
  match getBaseURLOrErr fails database with
  | .error page => page
  | .ok baseURL => ⟨200, none, generateStatusTxt baseURL⟩

def handleGetStatusJSON (fails : Bytes -> Bool) (database : Database) : DataPage :=
  match getBaseURLOrErr fails database with
  | .error page => page
  | .ok baseURL => ⟨200, some (bytes "application/json"), writeValue (statusJson baseURL)⟩

def handleGetServersJSON (isSweatbox : Bool) (fails : Bytes -> Bool) (database : Database) :
    DataPage :=
  match getFsdServerInfo fails database with
  | .error _ => ⟨500, some (bytes "text/plain"),
      bytes "Unable to load FSD server info from configuration"⟩
  | .ok info => ⟨200, some (bytes "application/json"),
      writeValue (.array ((serverList info isSweatbox).map DataJsonServer.json))⟩

def handleGetServersTxt (fails : Bytes -> Bool) (database : Database) : DataPage :=
  match getFsdServerInfo fails database with
  | .error _ => ⟨500, none, bytes "Error generating status.txt"⟩
  | .ok info => ⟨200, none, generateServersTxt info⟩

/-- `setupDataRoutes`, without the feed. -/
def dataRoutes : List (Bytes × ((Bytes -> Bool) -> Database -> DataPage)) :=
  [(bytes "/api/v1/data/status.txt", handleGetStatusTxt),
   (bytes "/api/v1/data/status.json", handleGetStatusJSON),
   (bytes "/api/v1/data/openfsd-servers.txt", handleGetServersTxt),
   (bytes "/api/v1/data/openfsd-servers.json", handleGetServersJSON false),
   (bytes "/api/v1/data/sweatbox-servers.json", handleGetServersJSON true),
   (bytes "/api/v1/data/all-servers.json", handleGetServersJSON false)]

/-! ## Reading the lists -/

def boolOf : JsonValue -> Option Bool
  | .bool value => some value
  | _ => none

def readServerJSON (value : JsonValue) : Option DataJsonServer := do
  let ident <- (member "ident" value).bind textOf
  let hostnameOrIp <- (member "hostname_or_ip" value).bind textOf
  let location <- (member "location" value).bind textOf
  let name <- (member "name" value).bind textOf
  let clientsConnectionAllowed <- (member "clients_connection_allowed" value).bind integerOf
  let clientConnectionsAllowed <- (member "client_connections_allowed" value).bind boolOf
  let isSweatbox <- (member "is_sweatbox" value).bind boolOf
  some ⟨ident, hostnameOrIp, location, name, clientsConnectionAllowed, clientConnectionsAllowed,
    isSweatbox⟩

def readServersJSON (text : Bytes) : Option (List DataJsonServer) := do
  let document <- readDocument 10000 text
  let items <- itemsOf document
  items.mapM readServerJSON

/-- What both lists say about a server. -/
structure Listing where
  ident : Bytes
  hostnameOrIp : Bytes
  location : Bytes
  name : Bytes
  clientsConnectionAllowed : Int
  deriving DecidableEq

def DataJsonServer.listing (server : DataJsonServer) : Listing :=
  ⟨server.ident, server.hostnameOrIp, server.location, server.name,
    server.clientsConnectionAllowed⟩

/-- One line of the list: five fields, each with a colon behind it. -/
def readServerTxt (line : Bytes) : Option Listing :=
  match splitByte colon line with
  | [ident, hostnameOrIp, location, name, allowed, []] =>
      if (atoi allowed).err = none then
        some ⟨ident, hostnameOrIp, location, name, (atoi allowed).value⟩
      else none
  | _ => none

def isComment (line : Bytes) : Bool :=
  line.head? = some (byte ';')

/-- The lines from the heading on, up to a comment. -/
def readServersTxt (text : Bytes) : Option (List Listing) :=
  let listed := ((lines text).dropWhile fun line => line ≠ bytes "!SERVERS:").tail
  (listed.takeWhile fun line => !isComment line).mapM readServerTxt

example : readServersTxt (generateServersTxt ⟨bytes "OPENFSD", bytes "localhost", bytes "Earth"⟩) =
    some ((serverList ⟨bytes "OPENFSD", bytes "localhost", bytes "Earth"⟩ false).map
      DataJsonServer.listing) := by
  decide +kernel

/-! ## The JSON lists -/

def ServerInfo.valid (info : ServerInfo) : ServerInfo :=
  ⟨toValidUTF8 info.ident, toValidUTF8 info.hostname, toValidUTF8 info.location⟩

/-- The names of the members, and the name that leaves the choice to the client. -/
def documentNames : List String :=
  ["ident", "hostname_or_ip", "location", "name", "clients_connection_allowed",
    "client_connections_allowed", "is_sweatbox", "AUTOMATIC", "data", "servers", "servers_all",
    "servers_sweatbox", "v3"]

theorem toValidUTF8_documentNames : forall name, name ∈ documentNames ->
    toValidUTF8 (bytes name) = bytes name := by
  decide +kernel

theorem readServerJSON_json (server : DataJsonServer) :
    readServerJSON server.json = some server := by
  have split : readServerJSON server.json =
      some ⟨server.ident, server.hostnameOrIp, server.location, server.name,
        integerValue (itoa server.clientsConnectionAllowed), server.clientConnectionsAllowed,
        server.isSweatbox⟩ := rfl
  rw [split, integerValue_itoa]

theorem mapM_readServerJSON (servers : List DataJsonServer) :
    (servers.map DataJsonServer.json).mapM readServerJSON = some servers := by
  induction servers with
  | nil => rfl
  | cons server rest inductionHypothesis =>
      rw [List.map_cons, List.mapM_cons, readServerJSON_json, inductionHypothesis]
      rfl

/-- The list is read back, with valid UTF-8 in its strings. -/
theorem readServersJSON_serverList (info : ServerInfo) (isSweatbox : Bool) :
    readServersJSON (writeValue (.array ((serverList info isSweatbox).map DataJsonServer.json))) =
      some (serverList info.valid isSweatbox) := by
  have writable : Writable 2 (.array ((serverList info isSweatbox).map DataJsonServer.json)) := by
    intro item listed
    rcases List.mem_map.mp listed with ⟨server, _, rfl⟩
    simp [DataJsonServer.json, Writable, literal_itoa]
  have within : 2 ≤ 10000 := by omega
  have names := toValidUTF8_documentNames
  simp only [documentNames, List.forall_mem_cons] at names
  have valid : validValue (.array ((serverList info isSweatbox).map DataJsonServer.json)) =
      .array ((serverList info.valid isSweatbox).map DataJsonServer.json) := by
    simp [serverList, DataJsonServer.json, ServerInfo.valid, validValue, validItems, validMembers,
      validMember, names]
  unfold readServersJSON
  rw [readDocument_writeValue writable within, valid]
  exact mapM_readServerJSON (serverList info.valid isSweatbox)

/-! ## The lines of a text -/

theorem carriageReturns_of_not_mem {line : Bytes} (absent : lineFeed ∉ line) :
    carriageReturns line = line := by
  induction line with
  | nil => rfl
  | cons head rest inductionHypothesis =>
      rw [List.mem_cons, not_or] at absent
      have different : head ≠ lineFeed := fun same => absent.1 same.symm
      rw [carriageReturns, List.flatMap_cons, if_neg different]
      exact congrArg (List.cons head) (inductionHypothesis absent.2)

theorem lines_carriageReturns {line : Bytes} (absent : lineFeed ∉ line) (rest : Bytes) :
    lines (carriageReturns (line ++ lineFeed :: rest)) = line :: lines (carriageReturns rest) := by
  have ended : lineFeed ∉ line ++ [carriageReturn] := by
    rw [List.mem_append, not_or]
    exact ⟨absent, by decide⟩
  have whole : carriageReturns (line ++ lineFeed :: rest) =
      (line ++ [carriageReturn]) ++ lineFeed :: carriageReturns rest := by
    rw [carriageReturns, List.flatMap_append]
    change carriageReturns line ++ (crlf ++ carriageReturns rest) = _
    rw [carriageReturns_of_not_mem absent, crlf, List.append_assoc]
    rfl
  rw [whole, lines_append ended]
  simp [dropCR]

theorem lines_unlines {listed : List Bytes} (absent : forall line, line ∈ listed -> lineFeed ∉ line)
    (rest : Bytes) :
    lines (carriageReturns (unlines listed ++ rest)) = listed ++ lines (carriageReturns rest) := by
  induction listed with
  | nil => rfl
  | cons line others inductionHypothesis =>
      have whole : unlines (line :: others) ++ rest = line ++ lineFeed :: (unlines others ++ rest) := by
        rw [unlines, List.flatMap_cons, List.append_assoc, List.append_assoc]
        rfl
      rw [whole, lines_carriageReturns (absent line List.mem_cons_self),
        inductionHypothesis fun other member => absent other (List.mem_cons_of_mem line member)]
      rfl

/-- A line has no line feed. -/
theorem not_mem_of_mem_lines {stream line : Bytes} (member : line ∈ lines stream) :
    lineFeed ∉ line := by
  rcases List.mem_map.mp member with ⟨segment, inside, rfl⟩
  have listed : segment ∈ splitByte lineFeed stream := by
    split at inside
    · exact List.dropLast_subset _ inside
    · rcases List.mem_append.mp inside with earlier | last
      · exact List.dropLast_subset _ earlier
      · have nonempty := splitByte_ne_nil lineFeed stream
        rw [List.getLast?_eq_getLast_of_ne_nil nonempty] at last
        rw [List.mem_singleton.mp last]
        exact List.getLast_mem nonempty
  intro impossible
  rw [dropCR_eq_take] at impossible
  exact Fsd.not_mem_of_mem_splitByte listed (List.mem_of_mem_take impossible)

/-! ## The text list -/

/-- The settings can stand in a line of fields. -/
structure Listable (info : ServerInfo) : Prop where
  ident : PlainField info.ident
  hostname : PlainField info.hostname
  location : PlainField info.location
  noComment : isComment info.ident = false

/-- What stands in a line. -/
structure PlainServer (server : DataJsonServer) : Prop where
  ident : PlainField server.ident
  hostnameOrIp : PlainField server.hostnameOrIp
  location : PlainField server.location
  name : PlainField server.name
  fits : IsInt64 server.clientsConnectionAllowed

open serversTxtEntries (serversTxtEntry)

theorem readServerTxt_entry {server : DataJsonServer} (plain : PlainServer server) :
    readServerTxt (serversTxtEntry server) = some server.listing := by
  unfold readServerTxt serversTxtEntry
  rw [splitByte_append plain.ident.1, splitByte_append plain.hostnameOrIp.1,
    splitByte_append plain.location.1, splitByte_append plain.name.1,
    splitByte_append (Fsd.plainField_itoa _).1]
  simp only [splitByte, atoi_itoa plain.fits, if_true, DataJsonServer.listing]

theorem lineFeed_not_mem_entry {server : DataJsonServer} (plain : PlainServer server) :
    lineFeed ∉ serversTxtEntry server := by
  have different : lineFeed ≠ colon := by decide
  unfold serversTxtEntry
  simp only [List.mem_append, List.mem_cons, List.not_mem_nil, or_false, not_or]
  exact ⟨plain.ident.2, different, plain.hostnameOrIp.2, different, plain.location.2, different,
    plain.name.2, different, (Fsd.plainField_itoa _).2, different⟩

theorem isComment_entry (server : DataJsonServer) :
    isComment (serversTxtEntry server) = isComment server.ident := by
  unfold isComment serversTxtEntry
  cases server.ident with
  | nil => rfl
  | cons head rest => rfl

theorem lines_entries {servers : List DataJsonServer} (nonempty : servers ≠ [])
    (plain : forall server, server ∈ servers -> PlainServer server) (rest : Bytes) :
    lines (carriageReturns (serversTxtEntries servers ++ lineFeed :: rest)) =
      servers.map serversTxtEntry ++ lines (carriageReturns rest) := by
  induction servers with
  | nil => exact absurd rfl nonempty
  | cons server others inductionHypothesis =>
      rcases List.forall_mem_cons.mp plain with ⟨own, later⟩
      cases others with
      | nil => exact lines_carriageReturns (lineFeed_not_mem_entry own) rest
      | cons second others =>
          have listed := inductionHypothesis (List.cons_ne_nil second others) later
          rw [serversTxtEntries, List.append_assoc, List.cons_append,
            lines_carriageReturns (lineFeed_not_mem_entry own), listed]
          · rfl
          · exact List.cons_ne_nil second others

theorem mapM_readServerTxt {servers : List DataJsonServer}
    (plain : forall server, server ∈ servers -> PlainServer server) :
    (servers.map serversTxtEntry).mapM readServerTxt =
      some (servers.map DataJsonServer.listing) := by
  induction servers with
  | nil => rfl
  | cons server rest inductionHypothesis =>
      rcases List.forall_mem_cons.mp plain with ⟨own, later⟩
      rw [List.map_cons, List.mapM_cons, readServerTxt_entry own, inductionHypothesis later]
      rfl

/-- Servers that can stand in lines are read back from them. -/
theorem readServersTxt_template {servers : List DataJsonServer} (nonempty : servers ≠ [])
    (plain : forall server, server ∈ servers -> PlainServer server)
    (noComment : forall server, server ∈ servers -> isComment server.ident = false) :
    readServersTxt (carriageReturns (serversTxtTemplate servers)) =
      some (servers.map DataJsonServer.listing) := by
  have absent : forall line, line ∈ serversTxtHeader -> lineFeed ∉ line := by decide +kernel
  have heading : forall others, ((serversTxtHeader ++ others).dropWhile fun line =>
      line ≠ bytes "!SERVERS:").tail = others := fun _ => rfl
  have ending : forall others : List Bytes, (forall line, line ∈ others -> isComment line = false) ->
      ((others ++ [bytes ";", bytes ";   END"]).takeWhile fun line => !isComment line) = others := by
    intro others all
    have stopped : ([bytes ";", bytes ";   END"].takeWhile fun line => !isComment line) = [] := rfl
    rw [List.takeWhile_append_of_pos fun line member => by rw [all line member]; rfl, stopped,
      List.append_nil]
  have ended : lines (carriageReturns (unlines [bytes ";", bytes ";   END"])) =
      [bytes ";", bytes ";   END"] := by decide +kernel
  unfold readServersTxt serversTxtTemplate
  rw [lines_unlines absent, lines_entries nonempty plain, ended, heading]
  dsimp only
  rw [ending]
  · exact mapM_readServerTxt plain
  · intro line member
    rcases List.mem_map.mp member with ⟨server, listed, rfl⟩
    rw [isComment_entry]
    exact noComment server listed

theorem readServersTxt_serverList {info : ServerInfo} (listable : Listable info) :
    readServersTxt (generateServersTxt info) =
      some ((serverList info false).map DataJsonServer.listing) := by
  have automatic : PlainField (bytes "AUTOMATIC") := by
    constructor <;> decide +kernel
  have fits : IsInt64 99 := by
    unfold IsInt64
    omega
  apply readServersTxt_template (List.cons_ne_nil _ _)
  · intro server member
    rcases List.mem_cons.mp member with rfl | second
    · exact ⟨listable.ident, listable.hostname, listable.location, listable.ident, fits⟩
    · rw [List.mem_singleton.mp second]
      exact ⟨automatic, listable.hostname, listable.location, listable.ident, fits⟩
  · intro server member
    rcases List.mem_cons.mp member with rfl | second
    · exact listable.noComment
    · rw [List.mem_singleton.mp second]
      rfl

/-! ## What can be read from lines -/

theorem head?_of_splitByte {separator b : UInt8} {text first : Bytes} {rest : List Bytes}
    (split : splitByte separator text = first :: rest) (starts : first.head? = some b) :
    text.head? = some b := by
  cases text with
  | nil =>
      cases split
      exact starts
  | cons head tail =>
      rw [splitByte] at split
      by_cases same : (head == separator) = true
      · rw [if_pos same] at split
        cases split
        cases starts
      · rw [if_neg same] at split
        cases later : splitByte separator tail with
        | nil => exact absurd later (splitByte_ne_nil separator tail)
        | cons piece others =>
            rw [later] at split
            cases split
            exact starts

theorem mem_of_mapM {A B : Type} {read : A -> Option B} {items : List A} {values : List B}
    (done : items.mapM read = some values) : forall value, value ∈ values ->
      Exists fun item => item ∈ items ∧ read item = some value := by
  induction items generalizing values with
  | nil =>
      cases done
      exact nofun
  | cons item rest inductionHypothesis =>
      rw [List.mapM_cons] at done
      rcases Option.bind_eq_some_iff.mp done with ⟨first, own, done⟩
      rcases Option.bind_eq_some_iff.mp done with ⟨others, later, same⟩
      cases same
      intro value member
      rcases List.mem_cons.mp member with rfl | other
      · exact ⟨item, List.mem_cons_self, own⟩
      · rcases inductionHypothesis later value other with ⟨source, listed, read⟩
        exact ⟨source, List.mem_cons_of_mem item listed, read⟩

/-- What is read from a line could have been written to one. -/
theorem plain_of_readServerTxt {line : Bytes} {listing : Listing}
    (read : readServerTxt line = some listing) (noComment : isComment line = false)
    (noEnd : lineFeed ∉ line) : PlainField listing.ident ∧ PlainField listing.hostnameOrIp ∧
      PlainField listing.location ∧ isComment listing.ident = false := by
  unfold readServerTxt at read
  split at read
  · next ident hostnameOrIp location name allowed split =>
      split at read
      · cases read
        have plain : forall piece, piece ∈ splitByte colon line -> PlainField piece := by
          intro piece member
          exact ⟨Fsd.not_mem_of_mem_splitByte member,
            fun impossible => noEnd (Fsd.subset_of_mem_splitByte member impossible)⟩
        rw [split] at plain
        simp only [List.forall_mem_cons] at plain
        refine ⟨plain.1, plain.2.1, plain.2.2.1, ?_⟩
        apply decide_eq_false
        intro starts
        have whole := head?_of_splitByte split starts
        exact absurd (decide_eq_true whole) (Bool.eq_false_iff.mp noComment)
      · cases read
  · cases read

theorem plain_of_readServersTxt {text : Bytes} {listings : List Listing}
    (read : readServersTxt text = some listings) : forall listing, listing ∈ listings ->
      PlainField listing.ident ∧ PlainField listing.hostnameOrIp ∧ PlainField listing.location ∧
        isComment listing.ident = false := by
  intro listing member
  rcases mem_of_mapM read listing member with ⟨line, listed, own⟩
  have shown : line ∈ lines text := by
    have inside := (List.takeWhile_prefix _).subset listed
    exact (List.dropWhile_suffix _).subset (List.mem_of_mem_tail inside)
  have noComment : isComment line = false := by
    have kept := List.mem_takeWhile_imp listed
    rwa [Bool.not_eq_true'] at kept
  exact plain_of_readServerTxt own noComment (not_mem_of_mem_lines shown)

/-! ## The two lists -/

/-- An ASCII byte stays in the string. -/
theorem mem_keepRunes {b : UInt8} {text : Bytes} (ascii : b < 0x80) (member : b ∈ text)
    (pending : Nat) : b ∈ keepRunes pending text := by
  induction text generalizing pending with
  | nil => cases member
  | cons head rest inductionHypothesis =>
      cases pending with
      | succ pending =>
          rcases List.mem_cons.mp member with rfl | later
          · exact List.mem_cons_self
          · exact List.mem_cons_of_mem head (inductionHypothesis later pending)
      | zero =>
          rw [keepRunes]
          cases measured : runeWidth (head :: rest) with
          | zero =>
              rcases List.mem_cons.mp member with rfl | later
              · have width : runeWidth (b :: rest) = 1 := by
                  unfold runeWidth
                  exact if_pos ascii
                cases measured.symm.trans width
              · exact List.mem_append_right _ (inductionHypothesis later 0)
          | succ width =>
              rcases List.mem_cons.mp member with rfl | later
              · exact List.mem_cons_self
              · exact List.mem_cons_of_mem head (inductionHypothesis later width)

theorem plainField_of_valid {text : Bytes} (plain : PlainField (toValidUTF8 text)) :
    PlainField text :=
  ⟨fun member => plain.1 (mem_keepRunes (by decide) member 0),
    fun member => plain.2 (mem_keepRunes (by decide) member 0)⟩

theorem isComment_of_valid {text : Bytes} (noComment : isComment (toValidUTF8 text) = false) :
    isComment text = false := by
  cases text with
  | nil => rfl
  | cons head rest =>
      apply decide_eq_false
      intro starts
      rw [Option.some.inj starts] at noComment
      have kept : toValidUTF8 (byte ';' :: rest) = byte ';' :: toValidUTF8 rest := rfl
      rw [kept] at noComment
      cases noComment

/-- The two lists of a server agree exactly if its settings are valid UTF-8, without
colons and line feeds, and its name does not look like a comment. -/
theorem servers_lists_agree_iff {fails : Bytes -> Bool} {database : Database} {info : ServerInfo}
    (known : getFsdServerInfo fails database = .ok info) :
    readServersTxt (handleGetServersTxt fails database).body =
        (readServersJSON (handleGetServersJSON false fails database).body).map
          (List.map DataJsonServer.listing) ↔
      Listable info ∧ info.valid = info := by
  unfold handleGetServersTxt handleGetServersJSON
  rw [known]
  dsimp only
  rw [readServersJSON_serverList, Option.map_some]
  constructor
  · intro agree
    have plain := plain_of_readServersTxt agree _ List.mem_cons_self
    have listable : Listable info :=
      ⟨plainField_of_valid plain.1, plainField_of_valid plain.2.1,
        plainField_of_valid plain.2.2.1, isComment_of_valid plain.2.2.2⟩
    rw [readServersTxt_serverList listable] at agree
    have first := (List.cons.inj (Option.some.inj agree)).1
    have sameIdent : info.ident = toValidUTF8 info.ident := congrArg Listing.ident first
    have sameHostname : info.hostname = toValidUTF8 info.hostname :=
      congrArg Listing.hostnameOrIp first
    have sameLocation : info.location = toValidUTF8 info.location :=
      congrArg Listing.location first
    refine ⟨listable, ?_⟩
    unfold ServerInfo.valid
    rw [← sameIdent, ← sameHostname, ← sameLocation]
  · rintro ⟨listable, valid⟩
    rw [readServersTxt_serverList listable, valid]

/-- A database with these settings. -/
def settings (ident : String) : Database :=
  { Symbolic.database with
    config := (((Symbolic.database.config.insert configFsdServerIdent (bytes ident)).insert
      configFsdServerHostname (bytes "localhost")).insert
        configFsdServerLocation (bytes "Earth")).insert
          configApiServerBaseURL (bytes "http://localhost") }

/-- A colon in the name shifts the fields of the text. -/
theorem servers_lists_agree_iff_colon :
    readServersTxt (handleGetServersTxt (fun _ => false) (settings "OPEN:FSD")).body ≠
      (readServersJSON (handleGetServersJSON false (fun _ => false) (settings "OPEN:FSD")).body).map
        (List.map DataJsonServer.listing) := by
  have known : getFsdServerInfo (fun _ => false) (settings "OPEN:FSD") =
      .ok ⟨bytes "OPEN:FSD", bytes "localhost", bytes "Earth"⟩ := by rfl
  intro agree
  have listable := ((servers_lists_agree_iff known).mp agree).1
  exact listable.ident.1 (by decide +kernel)

/-! ## From the status to the host -/

/-- A client requests a URL of the web server at this address, and takes no failure for
an answer. -/
def fetch (fails : Bytes -> Bool) (database : Database) (address url : Bytes) : Option Bytes :=
  match cutPrefix url address with
  | (path, true) =>
      match (dataRoutes.lookup path).map fun handler => handler fails database with
      | some page => if page.status = 200 then some page.body else none
      | none => none
  | (_, false) => none

section Discovery

variable {fails : Bytes -> Bool} {database : Database} {baseURL : Bytes} {info : ServerInfo}

end Discovery

end Web
end OpenFsd
