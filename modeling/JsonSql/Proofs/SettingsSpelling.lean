import JsonSql.Mapper
import JsonSql.Proofs.Spelling
import JsonSql.Settings

/-!
# Spellings of settings and mappers

The fields of a connection, of a pool, of settings and of a mapper: some go by a
second, shorter name, and most have a default.  On the way a draft agrees with the
structure in every part it holds, so only the parts that are missing at the end are
left to the defaults.
-/

namespace JsonSql

theorem readString_string {text : String} :
    ∀ value, value = .string text → readString value = .ok text
  | _, rfl => rfl

theorem readBoolean_boolean {value : Bool} :
    ∀ json, json = .boolean value → readBoolean json = .ok value
  | _, rfl => rfl

theorem readUnsigned_natJson {bits value : Nat} {make : Nat → β} {part : β}
    (fits : value < Nat.pow 2 bits) (made : make value = part) :
    ∀ json, json = natJson value → (readUnsigned bits json).map make = .ok part := by
  rintro _ rfl
  have small : (value : Int).toNat < Nat.pow 2 bits := by simpa using fits
  rw [natJson, readUnsigned, if_pos ⟨Int.natCast_nonneg value, small⟩, Int.toNat_natCast,
    ← made]
  rfl

@[simp] theorem Slot.isFilled_of {name : String} {aliases : List String}
    {get : δ → Option β} {set : β → δ → δ} {read : Json → Except ReadError β} (draft : δ) :
    (Slot.of name aliases get set read).isFilled draft = (get draft).isSome := rfl

theorem Slot.answersTo_of_iff {name : String} {aliases : List String} {get : δ → Option β}
    {set : β → δ → δ} {read : Json → Except ReadError β} {key : String} :
    (Slot.of name aliases get set read).answersTo key = true ↔ key ∈ name :: aliases := by
  simp only [Slot.answersTo, Slot.of, Bool.or_eq_true, beq_iff_eq, List.contains_iff_mem,
    List.mem_cons]
  exact or_congr_left eq_comm

theorem Slot.fits_of {slots : List (Slot δ)} {Holds : δ → Prop} {name : String}
    {aliases : List String} {get : δ → Option β} {set : β → δ → δ}
    {read : Json → Except ReadError β} {Spells : Json → Prop} {MayLack : Prop} (part : β)
    (reads : ∀ value, Spells value → read value = .ok part)
    (holds : ∀ draft, Holds draft → Holds (set part draft))
    (got : ∀ draft, get (set part draft) = some part)
    (frame : ∀ other ∈ slots, other = .of name aliases get set read ∨
      ∀ draft, other.isFilled (set part draft) = other.isFilled draft) :
    (Slot.of name aliases get set read).Fits slots Holds
      ⟨name :: aliases, Spells, MayLack⟩ where
  names _ := Slot.answersTo_of_iff
  fill value draft spelled given := by
    refine ⟨set part draft, ?_, holds draft given, by simp [got], ?_⟩
    · simp only [Slot.of, reads value spelled]
      rfl
    · intro other member
      rcases frame other member with rfl | unchanged
      · refine ⟨fun _ => by simp [got], fun key answers silent => ?_⟩
        rw [answers] at silent
        cases silent
      · simp [unchanged]

theorem getD_of_agrees {part : Option β} {value default : β}
    (agrees : part.getD value = value) (full : part.isSome = true ∨ value = default) :
    part.getD default = value := by
  cases part with
  | none => simpa [eq_comm] using full
  | some held => exact agrees

/-! ## Connections -/

def Connection.fields (connection : Connection) : List SpelledField :=
  [ ⟨["hostName", "host"], (· = .string connection.host), connection.host = ""⟩,
    ⟨["port"], (· = natJson connection.portNumber.toNat), connection.portNumber = 0⟩,
    ⟨["userName", "uid"], (· = .string connection.user), connection.user = ""⟩,
    ⟨["password", "pwd"], (· = .string connection.password), connection.password = ""⟩ ]

structure ConnectionDraft.Agrees (connection : Connection) (draft : ConnectionDraft) :
    Prop where
  host : draft.host.getD connection.host = connection.host
  portNumber : draft.portNumber.getD connection.portNumber = connection.portNumber
  user : draft.user.getD connection.user = connection.user
  password : draft.password.getD connection.password = connection.password

theorem Connection.layout_suits (connection : Connection) :
    Connection.layout.Suits connection.fields (ConnectionDraft.Agrees connection)
      connection where
  distinct := by simp [Unmistakable, fields]
  start := ⟨rfl, rfl, rfl, rfl⟩
  blank := by simp [layout]
  fits := by
    refine .cons ?host (.cons ?portNumber (.cons ?user (.cons ?password .nil)))
    case host =>
      exact Slot.fits_of connection.host readString_string
        (fun _ agrees => { agrees with host := rfl }) (fun _ => rfl) (by simp [layout])
    case portNumber =>
      have reads := readUnsigned_natJson connection.portNumber.toNat_lt
        (UInt16.ofNat_toNat)
      exact Slot.fits_of connection.portNumber reads
        (fun _ agrees => { agrees with portNumber := rfl }) (fun _ => rfl)
        (by simp [layout])
    case user =>
      exact Slot.fits_of connection.user readString_string
        (fun _ agrees => { agrees with user := rfl }) (fun _ => rfl) (by simp [layout])
    case password =>
      exact Slot.fits_of connection.password readString_string
        (fun _ agrees => { agrees with password := rfl }) (fun _ => rfl)
        (by simp [layout])
  finish absent draft agrees full := by
    simp only [layout, fields, List.forall₂_cons, Slot.isFilled_of] at full
    obtain ⟨host, portNumber, user, password, -⟩ := full
    have host := getD_of_agrees agrees.host host
    have portNumber := getD_of_agrees agrees.portNumber portNumber
    have user := getD_of_agrees agrees.user user
    have password := getD_of_agrees agrees.password password
    simp only [layout, host, portNumber, user, password]

def Pool.fields (pool : Pool) : List SpelledField :=
  [ ⟨["max"], (· = natJson pool.maxConnections.toNat), pool.maxConnections = 50⟩,
    ⟨["requestTimeout"], (· = natJson pool.timeout.toNat), pool.timeout = 30000⟩ ]

structure PoolDraft.Agrees (pool : Pool) (draft : PoolDraft) : Prop where
  maxConnections : draft.maxConnections.getD pool.maxConnections = pool.maxConnections
  timeout : draft.timeout.getD pool.timeout = pool.timeout

theorem Pool.layout_suits (pool : Pool) :
    Pool.layout.Suits pool.fields (PoolDraft.Agrees pool) pool where
  distinct := by simp [Unmistakable, fields]
  start := ⟨rfl, rfl⟩
  blank := by simp [layout]
  fits := by
    refine .cons ?maxConnections (.cons ?timeout .nil)
    case maxConnections =>
      have reads := readUnsigned_natJson pool.maxConnections.toNat_lt
        UInt32.ofNat_toNat
      exact Slot.fits_of pool.maxConnections reads
        (fun _ agrees => { agrees with maxConnections := rfl }) (fun _ => rfl)
        (by simp [layout])
    case timeout =>
      have reads := readUnsigned_natJson pool.timeout.toNat_lt
        UInt64.ofNat_toNat
      exact Slot.fits_of pool.timeout reads
        (fun _ agrees => { agrees with timeout := rfl }) (fun _ => rfl) (by simp [layout])
  finish absent draft agrees full := by
    simp only [layout, fields, List.forall₂_cons, Slot.isFilled_of] at full
    obtain ⟨maxConnections, timeout, -⟩ := full
    have maxConnections := getD_of_agrees agrees.maxConnections maxConnections
    have timeout := getD_of_agrees agrees.timeout timeout
    simp only [layout, maxConnections, timeout]

def Settings.fields (settings : Settings) : List SpelledField :=
  [ ⟨["hanaOpts"], Spelled settings.connection.fields, settings.connection = { }⟩,
    ⟨["poolOpts"], Spelled settings.pool.fields, settings.pool = { }⟩,
    ⟨["debug"], (· = .boolean settings.debug), settings.debug = false⟩ ]

structure SettingsDraft.Agrees (settings : Settings) (draft : SettingsDraft) : Prop where
  connection : draft.connection.getD settings.connection = settings.connection
  pool : draft.pool.getD settings.pool = settings.pool
  debug : draft.debug.getD settings.debug = settings.debug

theorem Settings.layout_suits (settings : Settings) :
    Settings.layout.Suits settings.fields (SettingsDraft.Agrees settings) settings where
  distinct := by simp [Unmistakable, fields]
  start := ⟨rfl, rfl, rfl⟩
  blank := by simp [layout]
  fits := by
    refine .cons ?connection (.cons ?pool (.cons ?debug .nil))
    case connection =>
      exact Slot.fits_of settings.connection
        (fun _ => settings.connection.layout_suits.read_of_spelled)
        (fun _ agrees => { agrees with connection := rfl }) (fun _ => rfl)
        (by simp [layout])
    case pool =>
      exact Slot.fits_of settings.pool
        (fun _ => settings.pool.layout_suits.read_of_spelled)
        (fun _ agrees => { agrees with pool := rfl }) (fun _ => rfl) (by simp [layout])
    case debug =>
      exact Slot.fits_of settings.debug readBoolean_boolean
        (fun _ agrees => { agrees with debug := rfl }) (fun _ => rfl) (by simp [layout])
  finish absent draft agrees full := by
    simp only [layout, fields, List.forall₂_cons, Slot.isFilled_of] at full
    obtain ⟨connection, pool, debug, -⟩ := full
    have connection := getD_of_agrees agrees.connection connection
    have pool := getD_of_agrees agrees.pool pool
    have debug := getD_of_agrees agrees.debug debug
    simp only [layout, connection, pool, debug]

namespace Mapper

def fields (mapper : Mapper) : List SpelledField :=
  [ ⟨["name"], (· = .string mapper.name), False⟩,
    ⟨["table"], (· = .string mapper.table), False⟩,
    ⟨["idAttribute"], (· = .string mapper.idAttribute), mapper.idAttribute = "id"⟩ ]

structure Draft.Agrees (mapper : Mapper) (draft : Draft) : Prop where
  name : draft.name.getD mapper.name = mapper.name
  table : draft.table.getD mapper.table = mapper.table
  idAttribute : draft.idAttribute.getD mapper.idAttribute = mapper.idAttribute

theorem layout_suits (mapper : Mapper) :
    layout.Suits mapper.fields (Draft.Agrees mapper) mapper where
  distinct := by simp [Unmistakable, fields]
  start := ⟨rfl, rfl, rfl⟩
  blank := by simp [layout]
  fits := by
    refine .cons ?name (.cons ?table (.cons ?idAttribute .nil))
    case name =>
      exact Slot.fits_of mapper.name readString_string
        (fun _ agrees => { agrees with name := rfl }) (fun _ => rfl) (by simp [layout])
    case table =>
      exact Slot.fits_of mapper.table readString_string
        (fun _ agrees => { agrees with table := rfl }) (fun _ => rfl) (by simp [layout])
    case idAttribute =>
      exact Slot.fits_of mapper.idAttribute readString_string
        (fun _ agrees => { agrees with idAttribute := rfl }) (fun _ => rfl)
        (by simp [layout])
  finish absent draft agrees full := by
    simp only [layout, fields, List.forall₂_cons, Slot.isFilled_of, or_false] at full
    obtain ⟨filledName, filledTable, column, -⟩ := full
    obtain ⟨name, hasName⟩ := Option.isSome_iff_exists.mp filledName
    obtain ⟨table, hasTable⟩ := Option.isSome_iff_exists.mp filledTable
    have sameName : name = mapper.name := by simpa [hasName] using agrees.name
    have sameTable : table = mapper.table := by simpa [hasTable] using agrees.table
    have sameColumn := getD_of_agrees agrees.idAttribute column
    simp only [layout, finish, hasName, hasTable, sameName, sameTable, sameColumn]

end Mapper

/-! ## Every spelling is read -/

theorem Connection.spelled_toJson (connection : Connection) :
    Spelled connection.fields connection.toJson :=
  .of_entries (.entry (by simp) rfl (.entry (by simp) rfl (.entry (by simp) rfl
    (.entry (by simp) rfl .nil))))

theorem Pool.spelled_toJson (pool : Pool) : Spelled pool.fields pool.toJson :=
  .of_entries (.entry (by simp) rfl (.entry (by simp) rfl .nil))

theorem Settings.spelled_toJson (settings : Settings) :
    Spelled settings.fields settings.toJson :=
  .of_entries (.entry (by simp) settings.connection.spelled_toJson
    (.entry (by simp) settings.pool.spelled_toJson (.entry (by simp) rfl .nil)))

theorem Mapper.spelled_toJson (mapper : Mapper) : Spelled mapper.fields mapper.toJson :=
  .of_entries (.entry (by simp) rfl (.entry (by simp) rfl (.entry (by simp) rfl .nil)))

/-- Settings and mappers are read back from what is written for them, and from every
other spelling. -/
theorem ofJson_of_spelled :
    (∀ settings : Settings, Settings.ofJson settings.toJson = .ok settings ∧
      ∀ value, Spelled settings.fields value → Settings.ofJson value = .ok settings) ∧
    (∀ mapper : Mapper, Mapper.ofJson mapper.toJson = .ok mapper ∧
      ∀ value, Spelled mapper.fields value → Mapper.ofJson value = .ok mapper) := by
  constructor
  · intro settings
    have reads : ∀ value, Spelled settings.fields value →
        Settings.ofJson value = .ok settings :=
      fun _ => settings.layout_suits.read_of_spelled
    exact ⟨reads _ settings.spelled_toJson, reads⟩
  · intro mapper
    have reads : ∀ value, Spelled mapper.fields value → Mapper.ofJson value = .ok mapper :=
      fun _ => mapper.layout_suits.read_of_spelled
    exact ⟨reads _ mapper.spelled_toJson, reads⟩

def tunedConnection : Connection where
  host := "db"
  portNumber := 65535
  password := "p\"w"

def tunedSettings : Settings where
  connection := tunedConnection
  pool := { timeout := 18446744073709551615 }
  debug := true

def tunedConnectionJson : Json :=
  .object
    [ ("hostname", .boolean false), ("pwd", .string "p\"w"),
      ("port", natJson 65535), ("host", .string "db") ]

def tunedSettingsJson : Json :=
  .object
    [ ("comment", .array [.null]),
      ("debug", .boolean true),
      ("poolOpts", .array [natJson 50, natJson 18446744073709551615]),
      ("hanaOpts", tunedConnectionJson) ]

theorem tunedConnection_spelled : Spelled tunedConnection.fields tunedConnectionJson := by
  have known : SpelledEntries tunedConnection.fields
      [("host", .string "db"), ("port", natJson 65535), ("pwd", .string "p\"w")] :=
    .entry (by simp) rfl (.entry (by simp) rfl (.lacking rfl (.entry (by simp) rfl .nil)))
  have others : ∀ entry ∈ [("hostname", Json.boolean false)],
      ∀ field ∈ tunedConnection.fields, entry.1 ∉ field.names := by
    simp [Connection.fields]
  exact .object known others (List.reverse_perm _).symm

theorem tunedSettings_spelled : Spelled tunedSettings.fields tunedSettingsJson := by
  have pool : Spelled tunedSettings.pool.fields
      (.array [natJson 50, natJson 18446744073709551615]) :=
    .array (.item rfl (.item rfl (.lacking (by simp))))
  have known : SpelledEntries tunedSettings.fields
      [ ("hanaOpts", tunedConnectionJson),
        ("poolOpts", .array [natJson 50, natJson 18446744073709551615]),
        ("debug", .boolean true) ] :=
    .entry (by simp) tunedConnection_spelled
      (.entry (by simp) pool (.entry (by simp) rfl .nil))
  have others : ∀ entry ∈ [("comment", Json.array [.null])],
      ∀ field ∈ tunedSettings.fields, entry.1 ∉ field.names := by
    simp [Settings.fields]
  exact .object known others (List.reverse_perm _).symm

theorem tunedSettings_and_queueMapper_read :
    Spelled tunedSettings.fields tunedSettingsJson ∧
    Settings.ofJson tunedSettingsJson = .ok tunedSettings ∧
    Mapper.ofJson (.array [.string "queue", .string "/AZR/WB_QUEUE"]) =
      .ok ⟨"queue", "/AZR/WB_QUEUE", "id"⟩ := by
  have list : Spelled (Mapper.fields ⟨"queue", "/AZR/WB_QUEUE", "id"⟩)
      (.array [.string "queue", .string "/AZR/WB_QUEUE"]) :=
    .array (.item rfl (.item rfl (.lacking (by simp))))
  exact ⟨tunedSettings_spelled,
    (ofJson_of_spelled.1 tunedSettings).2 _ tunedSettings_spelled,
    (ofJson_of_spelled.2 _).2 _ list⟩

end JsonSql
