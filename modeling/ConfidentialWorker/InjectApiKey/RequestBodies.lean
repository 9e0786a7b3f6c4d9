import ConfidentialWorker.InjectApiKey.Script
import ConfidentialWorker.Library.JsonReading
import ConfidentialWorker.Pallets.OffchainWorker

/-!
# What the script posts

The script puts its bodies together by interpolation, without looking at the
key.  The key is in hexadecimal by then: whatever it is, the bodies are JSON
texts of the two calls that are meant and of nothing else, and the bytes that a
node reads from them are those that `echo` printed.
-/

namespace ConfidentialWorker.InjectApiKey

open Json

/-- A JSON-RPC request. -/
def rpcCall (method : String) (params : List Document) : Document :=
  .object
    [("jsonrpc", .string "2.0"), ("id", .number "1"),
      ("method", .string method), ("params", .array params)]

/-- The bytes of a hexadecimal parameter. -/
def hexParameter (text : String) : Option Bytes :=
  match text.toList with
  | '0' :: 'x' :: digits => Hex.decode digits
  | _ => none

/-- The two bodies, as the node reads them. -/
structure PostsCalls (argument : Option String) : Prop where
  set :
    ∃ name value,
      Means
          (setRequest (hexOf storageKey) (hexOf (apiKeyOf argument))).toList
          (rpcCall "offchain_localStorageSet"
            [.string "PERSISTENT", .string name, .string value]) ∧
        hexParameter name = some (Utf8.encode OffchainWorker.apiKeyName) ∧
          hexParameter value = some (echoN (apiKeyOf argument))
  get :
    ∃ name,
      Means (getRequest (hexOf storageKey)).toList
          (rpcCall "offchain_localStorageGet"
            [.string "PERSISTENT", .string name]) ∧
        hexParameter name = some (Utf8.encode OffchainWorker.apiKeyName)

/-! ## The letters of the parts -/

def Plain (text : String) : Prop :=
  text.toList.all isUnescaped = true

instance (text : String) : Decidable (Plain text) :=
  inferInstanceAs (Decidable (text.toList.all isUnescaped = true))

theorem spells_of_unescaped {text : List Char}
    (plain : text.all isUnescaped = true) :
    Spells text text := by
  induction text with
  | nil =>
      exact .empty
  | cons letter rest inductionHypothesis =>
      rw [List.all_cons, Bool.and_eq_true] at plain
      exact .unescaped plain.1 (inductionHypothesis plain.2)

theorem spells_plain {text : String} (plain : Plain text) :
    Spells text.toList text.toList :=
  spells_of_unescaped plain

theorem denotes_of_plain {text : String} (plain : Plain text) :
    Denotes (.value (.string text)) ('"' :: (text.toList ++ ['"'])) := by
  have denotes := Denotes.string (spells_plain plain)
  rw [String.ofList_toList] at denotes
  exact denotes

private theorem isUnescaped_of_digit {letter : Char} {value : ℕ}
    (digit : Hex.digitValue letter = some value) :
    isUnescaped letter = true := by
  by_contra special
  have escaped :
      letter.toNat < 0x20 ∨ letter = '"' ∨ letter = '\\' := by
    simp only [isUnescaped, decide_eq_true_eq, not_and_or, not_le, ne_eq,
      not_not] at special
    exact special
  rcases escaped with control | rfl | rfl
  · have below : ∀ code < 0x20, Hex.digitValue (Char.ofNat code) = none := by
      decide
    have noDigit := below letter.toNat control
    rw [Char.ofNat_toNat, digit] at noDigit
    cases noDigit
  · cases digit
  · cases digit

theorem unescaped_of_decode {text : List Char} {bytes : Bytes}
    (decoded : Hex.decode text = some bytes) :
    text.all isUnescaped = true := by
  induction text using Hex.decode.induct generalizing bytes with
  | case1 =>
      rfl
  | case2 letter =>
      cases decoded
  | case3 high low rest highValue lowValue more decodedMore lowDigit highDigit
      inductionHypothesis =>
      rw [List.all_cons, List.all_cons, isUnescaped_of_digit highDigit,
        isUnescaped_of_digit lowDigit, inductionHypothesis decodedMore]
      rfl
  | case4 high low rest failed inductionHypothesis =>
      rw [Hex.decode] at decoded
      split at decoded
      · exact False.elim (failed _ _ _ ‹_› ‹_› ‹_›)
      · cases decoded

theorem plain_of_decode {digits : String} {bytes : Bytes}
    (decoded : Hex.decode digits.toList = some bytes) :
    Plain ("0x" ++ digits) := by
  rw [Plain, String.toList_append, List.all_append,
    unescaped_of_decode decoded]
  rfl

theorem hexParameter_eq (digits : String) :
    hexParameter ("0x" ++ digits) = Hex.decode digits.toList := by
  have split : ("0x" ++ digits).toList = '0' :: 'x' :: digits.toList := by
    rw [String.toList_append]
    rfl
  rw [hexParameter, split]
  rfl

/-! ## The bodies -/

private theorem blank_margin : Blank "\n    ".toList :=
  List.all_eq_true.mp rfl

private theorem blank_indent : Blank "\n      ".toList :=
  List.all_eq_true.mp rfl

private theorem blank_space : Blank " ".toList :=
  List.all_eq_true.mp rfl

private theorem blank_end : Blank "\n  ".toList :=
  List.all_eq_true.mp rfl

/-- The frame that both bodies have. -/
private theorem denotes_rpcCall {method : String} (plain : Plain method)
    {params : List Document} {text : List Char}
    (denotes : Denotes (.value (.array params)) text) :
    Denotes (.value (rpcCall method params))
      ('{' :: (("\n    ".toList ++ '"' :: ("jsonrpc".toList ++ '"' ::
        ([] ++ ':' :: (" ".toList ++ (('"' :: ("2.0".toList ++ ['"'])) ++
          ([] ++ ',' ::
      ("\n    ".toList ++ '"' :: ("id".toList ++ '"' ::
        ([] ++ ':' :: (" ".toList ++ ("1".toList ++
          ([] ++ ',' ::
      ("\n    ".toList ++ '"' :: ("method".toList ++ '"' ::
        ([] ++ ':' :: (" ".toList ++ (('"' :: (method.toList ++ ['"'])) ++
          ([] ++ ',' ::
      ("\n    ".toList ++ '"' :: ("params".toList ++ '"' ::
        ([] ++ ':' :: (" ".toList ++ (text ++
          "\n  ".toList))))))))))))))))))))))) ++ ['}'])) := by
  have none : Blank [] := List.forall_mem_nil _
  have one : Denotes (.value (.number "1")) "1".toList :=
    .number (by decide)
  have paramsMember :=
    Denotes.lastMember blank_margin (spells_plain (by decide : Plain "params"))
      none blank_space denotes blank_end
  have methodMember :=
    Denotes.member blank_margin (spells_plain (by decide : Plain "method"))
      none blank_space (denotes_of_plain plain) none paramsMember
  have idMember :=
    Denotes.member blank_margin (spells_plain (by decide : Plain "id"))
      none blank_space one none methodMember
  have versionMember :=
    Denotes.member blank_margin (spells_plain (by decide : Plain "jsonrpc"))
      none blank_space (denotes_of_plain (by decide : Plain "2.0"))
      none idMember
  exact .object versionMember

private theorem setRequest_denotes {name value : String}
    (plainName : Plain ("0x" ++ name)) (plainValue : Plain ("0x" ++ value)) :
    DenotesText
      (rpcCall "offchain_localStorageSet"
        [.string "PERSISTENT", .string ("0x" ++ name),
          .string ("0x" ++ value)])
      (setRequest name value).toList := by
  have none : Blank [] := List.forall_mem_nil _
  have last :=
    Denotes.lastElement blank_indent (denotes_of_plain plainValue) blank_margin
  have second :=
    Denotes.element blank_indent (denotes_of_plain plainName) none last
  have first :=
    Denotes.element blank_indent
      (denotes_of_plain (by decide : Plain "PERSISTENT")) none second
  have denotes :=
    denotes_rpcCall (by decide : Plain "offchain_localStorageSet")
      (.array first)
  refine ⟨[], _, [], none, denotes, none, ?_⟩
  delta setRequest
  simp only [String.toList_append, List.append_assoc, List.cons_append,
    List.nil_append]
  rfl

private theorem getRequest_denotes {name : String}
    (plainName : Plain ("0x" ++ name)) :
    DenotesText
      (rpcCall "offchain_localStorageGet"
        [.string "PERSISTENT", .string ("0x" ++ name)])
      (getRequest name).toList := by
  have none : Blank [] := List.forall_mem_nil _
  have last :=
    Denotes.lastElement blank_indent (denotes_of_plain plainName) blank_margin
  have first :=
    Denotes.element blank_indent
      (denotes_of_plain (by decide : Plain "PERSISTENT")) none last
  have denotes :=
    denotes_rpcCall (by decide : Plain "offchain_localStorageGet")
      (.array first)
  refine ⟨[], _, [], none, denotes, none, ?_⟩
  delta getRequest
  simp only [String.toList_append, List.append_assoc, List.cons_append,
    List.nil_append]
  rfl

private theorem decode_storageKey :
    Hex.decode (hexOf storageKey).toList =
      some (Utf8.encode OffchainWorker.apiKeyName) := by
  have plainName : echoN storageKey = Utf8.encode OffchainWorker.apiKeyName :=
    echoN_of_not_option (by decide)
  rw [decode_hexOf, plainName]

/-- Whatever the key is, the script posts the two calls, and a node reads from
them the bytes that `echo` printed. -/
theorem injectApiKey_postsCalls (argument : Option String) :
    PostsCalls argument where
  set := by
    have value := decode_hexOf (apiKeyOf argument)
    have denotes :=
      setRequest_denotes (plain_of_decode decode_storageKey)
        (plain_of_decode value)
    refine ⟨_, _, means_of_denotes denotes, ?_, ?_⟩
    · rw [hexParameter_eq, decode_storageKey]
    · rw [hexParameter_eq, value]
  get := by
    have denotes := getRequest_denotes (plain_of_decode decode_storageKey)
    refine ⟨_, means_of_denotes denotes, ?_⟩
    rw [hexParameter_eq, decode_storageKey]

/-! ## A node that reads the bodies -/

inductive StorageCall where
  | set (key value : Bytes)
  | get (key : Bytes)

def persistentCall (method : String) :
    List Document → Option StorageCall
  | [.string kind, .string name, .string value] =>
      if method = "offchain_localStorageSet" ∧ kind = "PERSISTENT" then do
        let key ← hexParameter name
        let bytes ← hexParameter value
        some (.set key bytes)
      else
        none
  | [.string kind, .string name] =>
      if method = "offchain_localStorageGet" ∧ kind = "PERSISTENT" then do
        let key ← hexParameter name
        some (.get key)
      else
        none
  | _ => none

def storageCall (document : Document) : Option StorageCall :=
  match memberNamed "method" document, memberNamed "params" document with
  | some (.string method), some (.array params) => persistentCall method params
  | _, _ => none

/-- A node that accepts the calls it can read. -/
def readingNode : RpcEndpoint where
  post _ body db :=
    match (parse body.toList).bind storageCall with
    | some (.set key value) =>
        (.answered ⟨false, "null"⟩, db.set .persistent key value)
    | some (.get key) =>
        (.answered ⟨false, String.ofList (Hex.encode ((db .persistent key).getD []))⟩,
          db)
    | none => (.answered ⟨true, "Invalid request"⟩, db)

theorem readingNode_set
    {name value : String} {key bytes : Bytes}
    (nameBytes : Hex.decode name.toList = some key)
    (valueBytes : Hex.decode value.toList = some bytes)
    (url : String) (db : OffchainDb) :
    readingNode.post url (setRequest name value) db =
      (.answered ⟨false, "null"⟩, db.set .persistent key bytes) := by
  have read :=
    parse_of_denotes
      (setRequest_denotes (plain_of_decode nameBytes)
        (plain_of_decode valueBytes))
  have understood :
      storageCall
          (rpcCall "offchain_localStorageSet"
            [.string "PERSISTENT", .string ("0x" ++ name),
              .string ("0x" ++ value)]) =
        (do
          let key ← hexParameter ("0x" ++ name)
          let bytes ← hexParameter ("0x" ++ value)
          some (.set key bytes)) :=
    rfl
  rw [hexParameter_eq, hexParameter_eq, nameBytes, valueBytes] at understood
  simp only [readingNode, read, Option.bind_some, understood,
    Option.bind_eq_bind]

theorem readingNode_get
    {name : String} {key : Bytes}
    (nameBytes : Hex.decode name.toList = some key)
    (url : String) (db : OffchainDb) :
    readingNode.post url (getRequest name) db =
      (.answered
        ⟨false, String.ofList (Hex.encode ((db .persistent key).getD []))⟩,
        db) := by
  have read :=
    parse_of_denotes (getRequest_denotes (plain_of_decode nameBytes))
  have understood :
      storageCall
          (rpcCall "offchain_localStorageGet"
            [.string "PERSISTENT", .string ("0x" ++ name)]) =
        (do
          let key ← hexParameter ("0x" ++ name)
          some (.get key)) :=
    rfl
  rw [hexParameter_eq, nameBytes] at understood
  simp only [readingNode, read, Option.bind_some, understood,
    Option.bind_eq_bind]

theorem readingNode_documented : readingNode.Documented where
  localStorageSet := by
    intro url name value key bytes db response after nameBytes valueBytes
      answered
    rw [readingNode_set nameBytes valueBytes] at answered
    cases answered
    rfl
  localStorageGet := by
    intro url name key db response after nameBytes answered
    rw [readingNode_get nameBytes] at answered
    cases answered
    rfl

end ConfidentialWorker.InjectApiKey
