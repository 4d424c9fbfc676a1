import JsonSql.Proofs.Restatement
import JsonSql.Proofs.SettingsSpelling

/-!
# Restatements of settings and mappers

A list of settings, of a connection, of a pool or of a mapper is read as the object that
pairs the names of the fields with its elements, whatever these are: both give the same
value or the same failure.  So do two objects that differ in the names they use for the
fields of a connection and in entries with unknown names.  If the order of the entries
differs, both give the same value or both fail.
-/

namespace JsonSql

section

variable {β γ : Type} {order : EntryOrder} {name otherName : String}
  {aliases otherAliases : List String}
  {get : δ → Option β} {set : β → δ → δ} {read : Json → Except ReadError β}
  {otherGet : δ → Option γ} {otherSet : γ → δ → δ} {otherRead : Json → Except ReadError γ}
  {value : Json} {draft next : δ}

theorem Slot.fill_of_eq_ok_iff :
    (Slot.of name aliases get set read).fill value draft = .ok next ↔
      ∃ part, read value = .ok part ∧ set part draft = next := by
  simp only [Slot.of]
  cases read value <;> simp [Except.map]

theorem Slot.fills_of (got : ∀ part draft, get (set part draft) = some part) :
    (Slot.of name aliases get set read).Fills := by
  intro value draft next taken
  obtain ⟨part, -, rfl⟩ := Slot.fill_of_eq_ok_iff.mp taken
  rw [Slot.isFilled_of, got]
  rfl

theorem Slot.serves_of {Same : Json → Json → Prop} {Needed : Prop}
    (alike : ∀ value other, Same value other → order.Agree (read value) (read other)) :
    (Slot.of name aliases get set read).Serves order ⟨name, aliases, Same, Needed⟩ where
  names _ := Slot.answersTo_of_iff
  same value other draft same := (alike value other same).map fun part => set part draft

theorem Slot.independent_of
    (names : ∀ key ∈ name :: aliases, key ∉ otherName :: otherAliases)
    (keepsSecond : ∀ part draft, otherGet (set part draft) = otherGet draft)
    (keepsFirst : ∀ part draft, get (otherSet part draft) = get draft)
    (commute : ∀ part other draft,
      otherSet other (set part draft) = set part (otherSet other draft)) :
    (Slot.of name aliases get set read).Independent
      (.of otherName otherAliases otherGet otherSet otherRead) where
  keys key answers := by
    rw [Bool.eq_false_iff]
    intro otherAnswers
    exact names key (Slot.answersTo_of_iff.mp answers)
      (Slot.answersTo_of_iff.mp otherAnswers)
  keepsSecond value draft next taken := by
    obtain ⟨part, -, rfl⟩ := Slot.fill_of_eq_ok_iff.mp taken
    rw [Slot.isFilled_of, Slot.isFilled_of, keepsSecond]
  keepsFirst value draft next taken := by
    obtain ⟨part, -, rfl⟩ := Slot.fill_of_eq_ok_iff.mp taken
    rw [Slot.isFilled_of, Slot.isFilled_of, keepsFirst]
  commute value other draft filled := by
    simp only [bind_eq_ok_iff, Slot.fill_of_eq_ok_iff]
    constructor
    · rintro ⟨_, ⟨part, here, rfl⟩, otherPart, later, rfl⟩
      exact ⟨_, ⟨otherPart, later, rfl⟩, part, here, (commute part otherPart draft).symm⟩
    · rintro ⟨_, ⟨otherPart, later, rfl⟩, part, here, rfl⟩
      exact ⟨_, ⟨part, here, rfl⟩, otherPart, later, commute part otherPart draft⟩

theorem agree_of_same (read : Json → Except ReadError β) :
    ∀ value other, value = other → order.Agree (read value) (read other) := by
  rintro value _ rfl
  exact .of_eq rfl

end

/-! ## Connections and pools -/

def Connection.restatedFields : List RestatedField :=
  [ { name := "hostName", aliases := ["host"] },
    { name := "port" },
    { name := "userName", aliases := ["uid"] },
    { name := "password", aliases := ["pwd"] } ]

theorem Connection.layout_serves (order : EntryOrder) :
    Connection.layout.Serves order restatedFields where
  slots :=
    .cons (Slot.serves_of (agree_of_same _)) (.cons (Slot.serves_of (agree_of_same _))
      (.cons (Slot.serves_of (agree_of_same _))
        (.cons (Slot.serves_of (agree_of_same _)) .nil)))
  fills := by
    simp only [layout, List.forall_mem_cons]
    refine ⟨?_, ?_, ?_, ?_, by simp⟩
    all_goals exact Slot.fills_of fun _ _ => rfl
  apart := by
    simp only [layout, List.pairwise_cons, List.forall_mem_cons]
    refine ⟨⟨?_, ?_, ?_, by simp⟩, ⟨?_, ?_, by simp⟩, ⟨?_, by simp⟩, by simp, .nil⟩
    all_goals
      exact Slot.independent_of (by decide) (fun _ _ => rfl) (fun _ _ => rfl)
        (fun _ _ _ => rfl)
  blank := by simp [layout]
  finish _ _ _ _ := rfl

def Pool.restatedFields : List RestatedField :=
  [ { name := "max" }, { name := "requestTimeout" } ]

theorem Pool.layout_serves (order : EntryOrder) :
    Pool.layout.Serves order restatedFields where
  slots := .cons (Slot.serves_of (agree_of_same _))
    (.cons (Slot.serves_of (agree_of_same _)) .nil)
  fills := by
    simp only [layout, List.forall_mem_cons]
    refine ⟨?_, ?_, by simp⟩
    all_goals exact Slot.fills_of fun _ _ => rfl
  apart := by
    simp only [layout, List.pairwise_cons, List.forall_mem_cons]
    refine ⟨⟨?_, by simp⟩, by simp, .nil⟩
    exact Slot.independent_of (by decide) (fun _ _ => rfl) (fun _ _ => rfl)
      (fun _ _ _ => rfl)
  blank := by simp [layout]
  finish _ _ _ _ := rfl

def Settings.restatedFields (order : EntryOrder) : List RestatedField :=
  [ { name := "hanaOpts", Same := Restated order Connection.restatedFields },
    { name := "poolOpts", Same := Restated order Pool.restatedFields },
    { name := "debug" } ]

theorem Settings.layout_serves (order : EntryOrder) :
    Settings.layout.Serves order (restatedFields order) where
  slots := by
    refine .cons ?connection (.cons ?pool (.cons ?debug .nil))
    case connection =>
      exact Slot.serves_of fun _ _ => (Connection.layout_serves order).agree_of_restated
    case pool =>
      exact Slot.serves_of fun _ _ => (Pool.layout_serves order).agree_of_restated
    case debug => exact Slot.serves_of (agree_of_same _)
  fills := by
    simp only [layout, List.forall_mem_cons]
    refine ⟨?_, ?_, ?_, by simp⟩
    all_goals exact Slot.fills_of fun _ _ => rfl
  apart := by
    simp only [layout, List.pairwise_cons, List.forall_mem_cons]
    refine ⟨⟨?_, ?_, by simp⟩, ⟨?_, by simp⟩, by simp, .nil⟩
    all_goals
      exact Slot.independent_of (by decide) (fun _ _ => rfl) (fun _ _ => rfl)
        (fun _ _ _ => rfl)
  blank := by simp [layout]
  finish _ _ _ _ := rfl

theorem Settings.ofJson_agree {order : EntryOrder} {value other : Json}
    (restated : Restated order (restatedFields order) value other) :
    order.Agree (ofJson value) (ofJson other) :=
  (layout_serves order).agree_of_restated restated

namespace Mapper

def restatedFields : List RestatedField :=
  [ { name := "name", Needed := True },
    { name := "table", Needed := True },
    { name := "idAttribute" } ]

theorem layout_serves (order : EntryOrder) : layout.Serves order restatedFields where
  slots :=
    .cons (Slot.serves_of (agree_of_same _)) (.cons (Slot.serves_of (agree_of_same _))
      (.cons (Slot.serves_of (agree_of_same _)) .nil))
  fills := by
    simp only [layout, List.forall_mem_cons]
    refine ⟨?_, ?_, ?_, by simp⟩
    all_goals exact Slot.fills_of fun _ _ => rfl
  apart := by
    simp only [layout, List.pairwise_cons, List.forall_mem_cons]
    refine ⟨⟨?_, ?_, by simp⟩, ⟨?_, by simp⟩, by simp, .nil⟩
    all_goals
      exact Slot.independent_of (by decide) (fun _ _ => rfl) (fun _ _ => rfl)
        (fun _ _ _ => rfl)
  blank := by simp [layout]
  finish absent other draft full := by
    simp only [layout, restatedFields, List.forall₂_cons, Slot.isFilled_of,
      true_imp_iff] at full
    obtain ⟨name, hasName⟩ := Option.isSome_iff_exists.mp full.1
    obtain ⟨table, hasTable⟩ := Option.isSome_iff_exists.mp full.2.1
    simp only [layout, finish, hasName, hasTable]

theorem ofJson_agree {order : EntryOrder} {value other : Json}
    (restated : Restated order restatedFields value other) :
    order.Agree (ofJson value) (ofJson other) :=
  (layout_serves order).agree_of_restated restated

end Mapper

section

variable (order : EntryOrder) {items : List Json}

theorem restated_of_array {fields : List RestatedField}
    (defaults : ∀ field ∈ fields, ¬ field.Needed) (short : items.length ≤ fields.length) :
    Restated order fields (.array items)
      (.object ((fields.map RestatedField.name).zip items)) := by
  refine RestatesOnce.restated (.keyed short ?_)
  exact fun field later => defaults field (List.mem_of_mem_drop later)

theorem Connection.restated_of_array (short : items.length ≤ 4) :
    Restated order restatedFields (.array items)
      (.object (["hostName", "port", "userName", "password"].zip items)) :=
  JsonSql.restated_of_array order (by simp [restatedFields]) short

theorem Pool.restated_of_array (short : items.length ≤ 2) :
    Restated order restatedFields (.array items)
      (.object (["max", "requestTimeout"].zip items)) :=
  JsonSql.restated_of_array order (by simp [restatedFields]) short

theorem Settings.restated_of_array (short : items.length ≤ 3) :
    Restated order (restatedFields order) (.array items)
      (.object (["hanaOpts", "poolOpts", "debug"].zip items)) :=
  JsonSql.restated_of_array order (by simp [restatedFields]) short

theorem Mapper.restated_of_array (long : 2 ≤ items.length) (short : items.length ≤ 3) :
    Restated order restatedFields (.array items)
      (.object (["name", "table", "idAttribute"].zip items)) := by
  refine RestatesOnce.restated (.keyed short ?_)
  intro field later
  have last : field ∈ restatedFields.drop 2 := List.drop_subset_drop_left _ long later
  obtain rfl := List.mem_singleton.mp last
  exact id

end

/-! ## Restatements are read alike -/

theorem Settings.restated_connection {order : EntryOrder} {value other : Json}
    (restated : Restated order Connection.restatedFields value other)
    (before after : Record) :
    Restated order (restatedFields order) (.object (before ++ ("hanaOpts", value) :: after))
      (.object (before ++ ("hanaOpts", other) :: after)) :=
  RestatesOnce.restated
    (.rewritten List.mem_cons_self List.mem_cons_self List.mem_cons_self restated)

theorem Settings.restated_pool {order : EntryOrder} {value other : Json}
    (restated : Restated order Pool.restatedFields value other) (before after : Record) :
    Restated order (restatedFields order) (.object (before ++ ("poolOpts", value) :: after))
      (.object (before ++ ("poolOpts", other) :: after)) :=
  RestatesOnce.restated (.rewritten (List.mem_cons_of_mem _ List.mem_cons_self)
    List.mem_cons_self List.mem_cons_self restated)

/-- Restatements of settings and of mappers are read alike.  A list gives the same value or
the same failure as the object that pairs the names of the fields with its elements, and so
do two values that differ in the names used for fields, in entries with unknown names and in
lists for such objects, at every level.  If the order of the entries differs as well, both
give the same value or both fail. -/
theorem restatements_read_alike :
    (∀ items : List Json, items.length ≤ 3 →
      Settings.ofJson (.array items) =
        Settings.ofJson (.object (["hanaOpts", "poolOpts", "debug"].zip items))) ∧
    (∀ (items : List Json) (before after : Record), items.length ≤ 4 →
      Settings.ofJson (.object (before ++ ("hanaOpts", .array items) :: after)) =
        Settings.ofJson (.object (before ++ ("hanaOpts",
          .object (["hostName", "port", "userName", "password"].zip items)) :: after))) ∧
    (∀ (items : List Json) (before after : Record), items.length ≤ 2 →
      Settings.ofJson (.object (before ++ ("poolOpts", .array items) :: after)) =
        Settings.ofJson (.object (before ++ ("poolOpts",
          .object (["max", "requestTimeout"].zip items)) :: after))) ∧
    (∀ items : List Json, 2 ≤ items.length → items.length ≤ 3 →
      Mapper.ofJson (.array items) =
        Mapper.ofJson (.object (["name", "table", "idAttribute"].zip items))) ∧
    (∀ value other, Restated .kept (Settings.restatedFields .kept) value other →
      Settings.ofJson value = Settings.ofJson other) ∧
    (∀ value other, Restated .free (Settings.restatedFields .free) value other →
      ∀ settings,
        Settings.ofJson value = .ok settings ↔ Settings.ofJson other = .ok settings) ∧
    (∀ value other, Restated .kept Mapper.restatedFields value other →
      Mapper.ofJson value = Mapper.ofJson other) ∧
    (∀ value other, Restated .free Mapper.restatedFields value other →
      ∀ mapper, Mapper.ofJson value = .ok mapper ↔ Mapper.ofJson other = .ok mapper) := by
  refine ⟨?settings, ?connection, ?pool, ?mapper, fun _ _ => Settings.ofJson_agree,
    fun _ _ => Settings.ofJson_agree, fun _ _ => Mapper.ofJson_agree,
    fun _ _ => Mapper.ofJson_agree⟩
  case settings =>
    intro items short
    exact Settings.ofJson_agree (Settings.restated_of_array .kept short)
  case connection =>
    intro items before after short
    have inner := Connection.restated_of_array .kept short
    exact Settings.ofJson_agree (Settings.restated_connection inner before after)
  case pool =>
    intro items before after short
    have inner := Pool.restated_of_array .kept short
    exact Settings.ofJson_agree (Settings.restated_pool inner before after)
  case mapper =>
    intro items long short
    exact Mapper.ofJson_agree (Mapper.restated_of_array .kept long short)

def brokenItems : List Json :=
  [.array [.string "db", .null], .array [], .string "no"]

def brokenEntries : Record :=
  [ ("comment", .null),
    ("hanaOpts", .object [("host", .string "db"), ("user", .boolean true), ("port", .null)]),
    ("poolOpts", .array []),
    ("debug", .string "no") ]

theorem brokenItems_restated (order : EntryOrder) :
    Restated order (Settings.restatedFields order) (.array brokenItems)
      (.object brokenEntries) := by
  have listed : Restated order Connection.restatedFields (.array [.string "db", .null])
      (.object [("hostName", .string "db"), ("port", .null)]) :=
    Connection.restated_of_array order (by decide)
  have renamed : RestatesOnce order Connection.restatedFields
      (.object ([] ++ ("hostName", .string "db") :: [("port", .null)]))
      (.object ([] ++ ("host", .string "db") :: [("port", .null)])) :=
    .rewritten List.mem_cons_self (by decide) (by decide) rfl
  have added : RestatesOnce order Connection.restatedFields
      (.object ([("host", .string "db")] ++ [("port", .null)]))
      (.object ([("host", .string "db")] ++ ("user", .boolean true) :: [("port", .null)])) :=
    .added (by simp [Connection.restatedFields, RestatedField.names])
  have inner := Settings.restated_connection
    (listed.trans (renamed.restated.trans added.restated)) []
    [("poolOpts", .array []), ("debug", .string "no")]
  have commented : RestatesOnce order (Settings.restatedFields order)
      (.object ([] ++ brokenEntries.tail))
      (.object ([] ++ ("comment", .null) :: brokenEntries.tail)) :=
    .added (by simp [Settings.restatedFields, RestatedField.names])
  have whole : Restated order (Settings.restatedFields order) (.array brokenItems) _ :=
    Settings.restated_of_array order (by decide)
  exact whole.trans (inner.trans commented.restated)

def queueItems : List Json := [.string "queue", .string "/AZR/WB_QUEUE"]

def queueEntries : Record := [("table", .string "/AZR/WB_QUEUE"), ("name", .string "queue")]

theorem brokenItems_and_queueItems_read_alike :
    Restated .kept (Settings.restatedFields .kept) (.array brokenItems)
      (.object brokenEntries) ∧
    Settings.ofJson (.array brokenItems) = .error (.wrongType .null "u16") ∧
    Settings.ofJson (.object brokenEntries) = .error (.wrongType .null "u16") ∧
    Settings.ofJson (.object brokenEntries.reverse) =
      .error (.wrongType (.string "no") "a boolean") ∧
    Restated .free Mapper.restatedFields (.array queueItems) (.object queueEntries) ∧
    Mapper.ofJson (.object queueEntries) = .ok ⟨"queue", "/AZR/WB_QUEUE", "id"⟩ := by
  have kept := brokenItems_restated .kept
  have free : Restated .free Mapper.restatedFields (.array queueItems)
      (.object queueEntries) :=
    (Mapper.restated_of_array .free (by decide) (by decide)).trans
      (RestatesOnce.restated (.moved rfl (.swap _ _ _)))
  obtain ⟨-, -, -, -, alike, -, -, sameMapper⟩ := restatements_read_alike
  have broken : Settings.ofJson (.array brokenItems) = .error (.wrongType .null "u16") := rfl
  exact ⟨kept, broken, (alike _ _ kept).symm.trans broken, rfl, free,
    (sameMapper _ _ free _).mp rfl⟩

end JsonSql
