import MessageBus.Log.Encoding
import MessageBus.Proofs.Config.Shelf
import MessageBus.Proofs.Json.RoundTrip

namespace MessageBus

section Members

theorem Shelf.put_perm {α : Type} {s : Shelf α} {label : String} (absent : s.get? label = none)
    (value : α) : (s.put label value).Perm ((label, value) :: s) := by
  induction s with
  | nil => exact .rfl
  | cons entry rest ih =>
    obtain ⟨l, v⟩ := entry
    have ne : label ≠ l := by
      rintro rfl
      simp at absent
    rw [Shelf.get?_cons_of_ne ne] at absent
    rw [Shelf.put, if_neg ne]
    split
    · exact .rfl
    · exact ((ih absent).cons (l, v)).trans (.swap _ _ _)

theorem Shelf.foldl_put_perm {α : Type} {entries : List (String × α)} {s : Shelf α}
    (distinct : (entries.map Prod.fst).Nodup) (absent : ∀ e ∈ entries, s.get? e.1 = none) :
    (entries.foldl (fun shelf (name, v) => Shelf.put shelf name v) s).Perm (entries ++ s) := by
  induction entries generalizing s with
  | nil => exact .rfl
  | cons entry rest ih =>
    obtain ⟨name, v⟩ := entry
    obtain ⟨fresh, distinct⟩ := List.nodup_cons.mp distinct
    have still_absent : ∀ e ∈ rest, (s.put name v).get? e.1 = none := by
      intro e he
      have other : e.1 ≠ name := fun same => fresh (List.mem_map.mpr ⟨e, he, same⟩)
      rw [Shelf.get?_put, if_neg other]
      exact absent e (List.mem_cons_of_mem _ he)
    have placed : (s.put name v).Perm ((name, v) :: s) :=
      Shelf.put_perm (absent (name, v) List.mem_cons_self) v
    exact ((ih distinct still_absent).trans (placed.append_left rest)).trans List.perm_middle

/-- Members with names of their own are only brought into order. -/
theorem Json.Value.ofMembers_perm {members : List (String × Json.Value)}
    (distinct : (members.map Prod.fst).Nodup) :
    ∃ ordered, Json.Value.ofMembers members = .object ordered ∧ ordered.Perm members := by
  refine ⟨_, rfl, ?_⟩
  have placed := Shelf.foldl_put_perm (s := []) distinct fun _ _ => rfl
  rwa [List.append_nil] at placed

end Members

namespace Log

namespace Settings

/-- The members that settings are written as. -/
def members (s : Settings) : List (String × Json.Value) :=
  [("level", .string s.level), ("format", s.format.toJson), ("target", s.target.toJson),
    ("rotation", s.rotation.toJson), ("file_prefix", .string s.filePrefix),
    ("timestamps", .bool s.timestamps), ("ansi", .bool s.ansi),
    ("directives", .array (s.directives.map .string))]

/-- The settings of `s` under the names that are kept, and those of `base` under the others. -/
def keeping (keep : String → Bool) (s base : Settings) : Settings where
  level := if keep "level" then s.level else base.level
  format := if keep "format" then s.format else base.format
  target := if keep "target" then s.target else base.target
  rotation := if keep "rotation" then s.rotation else base.rotation
  filePrefix := if keep "file_prefix" then s.filePrefix else base.filePrefix
  timestamps := if keep "timestamps" then s.timestamps else base.timestamps
  ansi := if keep "ansi" then s.ansi else base.ansi
  directives := if keep "directives" then s.directives else base.directives

variable {s base : Settings} {name : String} {v : Json.Value} {keep other : String → Bool}
  {entries : List (String × Json.Value)}

theorem toJson_eq (s : Settings) : s.toJson = .ofMembers s.members := rfl

/-- The names of the members are those of the fields. -/
theorem members_names (s : Settings) : s.members.map Prod.fst = fields.map (·.name) := rfl

theorem names_nodup : (fields.map (·.name)).Nodup := by decide +kernel

section Fields

theorem ofDatum_format (f : Format) : Format.ofDatum (.ofJson f.toJson) = .ok f := by
  cases f <;> rfl

theorem ofDatum_rotation (r : Rotation) : Rotation.ofDatum (.ofJson r.toJson) = .ok r := by
  cases r <;> rfl

theorem ofDatum_destination (d : Destination) :
    Destination.ofDatum (.ofJson d.toJson) = .ok d := by
  cases d <;> rfl

theorem asStrings_ofJson (texts : List String) :
    Datum.asStrings (.ofJson (.array (texts.map .string))) = .ok texts := by
  induction texts with
  | nil => rfl
  | cons t texts ih =>
    rw [Datum.ofJson, Datum.asStrings] at ih ⊢
    rw [List.map_cons, Datum.ofJsonItems, List.mapM_cons, ih]
    rfl

/-- Each member belongs to one of the fields, which is set to what the member was made of. -/
theorem field_of_member (member : (name, v) ∈ s.members) (base : Settings) :
    ∃ f, fields.find? (·.name == name) = some f ∧
      f.set (.ofJson v) base = .ok (keeping (· = name) s base) := by
  simp only [members, List.mem_cons, Prod.mk.injEq, List.not_mem_nil, or_false] at member
  rcases member with ⟨rfl, rfl⟩ | ⟨rfl, rfl⟩ | ⟨rfl, rfl⟩ | ⟨rfl, rfl⟩ | ⟨rfl, rfl⟩ |
    ⟨rfl, rfl⟩ | ⟨rfl, rfl⟩ | ⟨rfl, rfl⟩
  · exact ⟨_, rfl, rfl⟩
  · exact ⟨_, rfl, congrArg (Except.map _) (ofDatum_format s.format)⟩
  · exact ⟨_, rfl, congrArg (Except.map _) (ofDatum_destination s.target)⟩
  · exact ⟨_, rfl, congrArg (Except.map _) (ofDatum_rotation s.rotation)⟩
  · exact ⟨_, rfl, rfl⟩
  · exact ⟨_, rfl, rfl⟩
  · exact ⟨_, rfl, rfl⟩
  · exact ⟨_, rfl, congrArg (Except.map _) (asStrings_ofJson s.directives)⟩

theorem reads_member (member : (name, v) ∈ s.members) : Json.Reads v v := by
  simp only [members, List.mem_cons, Prod.mk.injEq, List.not_mem_nil, or_false] at member
  rcases member with ⟨rfl, rfl⟩ | ⟨rfl, rfl⟩ | ⟨rfl, rfl⟩ | ⟨rfl, rfl⟩ | ⟨rfl, rfl⟩ |
    ⟨rfl, rfl⟩ | ⟨rfl, rfl⟩ | ⟨rfl, rfl⟩
  · exact Json.reads_string _
  · exact Json.reads_string _
  · cases s.target with
    | stdout => exact Json.reads_string _
    | stderr => exact Json.reads_string _
    | file d =>
      apply Json.reads_object
      intro m hm
      rw [List.mem_singleton.mp hm]
      exact Json.reads_string d
  · exact Json.reads_string _
  · exact Json.reads_string _
  · exact Json.reads_bool _
  · exact Json.reads_bool _
  · apply Json.reads_array
    intro w hw
    obtain ⟨t, -, rfl⟩ := List.mem_map.mp hw
    exact Json.reads_string t

end Fields

section Keeping

theorem keeping_keeping (keep other : String → Bool) (s base : Settings) :
    keeping keep s (keeping other s base) = keeping (fun n => other n || keep n) s base := by
  have either {β : Type} (n : String) (mine below : β) :
      (if keep n then mine else if other n then mine else below) =
        if (other n || keep n) then mine else below := by
    cases keep n <;> cases other n <;> rfl
  simp only [keeping, either]

/-- Only the names of the fields count. -/
theorem keeping_congr (same : ∀ n ∈ fields.map (·.name), keep n = other n) (s base : Settings) :
    keeping keep s base = keeping other s base := by
  have names : fields.map (·.name) = ["level", "format", "target", "rotation", "file_prefix",
    "timestamps", "ansi", "directives"] := rfl
  simp only [names, List.mem_cons, List.not_mem_nil, or_false, forall_eq_or_imp, forall_eq] at same
  simp only [keeping, same]

/-- Reading some of the members puts what they were made of and leaves the rest as it was. -/
theorem setNamed_members (some_of : ∀ m ∈ entries, m ∈ s.members) (base : Settings) :
    Datum.setNamed fields base (Datum.ofJsonMembers entries) =
      .ok (keeping (entries.map Prod.fst).contains s base) := by
  induction entries generalizing base with
  | nil => rfl
  | cons entry rest ih =>
    obtain ⟨name, v⟩ := entry
    obtain ⟨f, found, set⟩ := field_of_member (some_of (name, v) List.mem_cons_self) base
    have later := ih (fun m hm => some_of m (List.mem_cons_of_mem _ hm)) (keeping (· = name) s base)
    rw [Datum.ofJsonMembers, Datum.setNamed, found]
    simp only [set]
    rw [later, keeping_keeping]
    have names : (fun n => decide (n = name) || (rest.map Prod.fst).contains n) =
        ((name, v) :: rest |>.map Prod.fst).contains := by
      funext n
      rw [List.map_cons, List.contains_cons, beq_eq_decide]
    rw [names]

/-- Whatever is left of the members, in any order, is read as the settings with defaults for what is
left out. -/
theorem ofJson_object (kept : entries.Perm (s.members.filter (keep ·.1))) :
    ofJson (.object entries) = .ok (keeping keep s {}) := by
  have some_of : ∀ m ∈ entries, m ∈ s.members :=
    fun m hm => List.mem_of_mem_filter (kept.mem_iff.mp hm)
  have names : ∀ n ∈ fields.map (·.name), (entries.map Prod.fst).contains n = keep n := by
    intro n hn
    rw [← members_names s] at hn
    obtain ⟨m, hm, rfl⟩ := List.mem_map.mp hn
    rw [Bool.eq_iff_iff, List.contains_iff_mem, List.mem_map]
    constructor
    · rintro ⟨m', hm', same⟩
      rw [← same]
      exact (List.mem_filter.mp (kept.mem_iff.mp hm')).2
    · intro wanted
      exact ⟨m, kept.mem_iff.mpr (List.mem_filter.mpr ⟨hm, wanted⟩), rfl⟩
  rw [← keeping_congr names s {}]
  exact setNamed_members some_of {}

end Keeping

/-- The text of some of the members is read as what was left of the settings. -/
theorem parse_text (kept : entries.Perm (s.members.filter (keep ·.1))) :
    (Json.parse (Json.Value.object entries).text).map ofJson = some (.ok (keeping keep s {})) := by
  have readable : ∀ m ∈ entries, Json.Reads m.2 m.2 :=
    fun m hm => reads_member (List.mem_of_mem_filter (kept.mem_iff.mp hm))
  have distinct : (entries.map Prod.fst).Nodup := by
    apply (kept.map Prod.fst).nodup_iff.mpr
    exact (members_names s ▸ names_nodup).sublist (List.filter_sublist.map Prod.fst)
  obtain ⟨ordered, object, placed⟩ := Json.Value.ofMembers_perm distinct
  rw [(Json.reads_object readable).parse, Option.map_some, object,
    ofJson_object (placed.trans kept)]

/-- Settings that are written as text are read back as they are. When members are left out, in
whatever order the others stand, just those are read back as they are by default. -/
theorem settings_read_back (s : Settings) :
    (∃ written, s.toJson = .object written ∧ written.Perm s.members) ∧
    (Json.parse s.toJson.text).map ofJson = some (.ok s) ∧
    ∀ (keep : String → Bool) (kept : List (String × Json.Value)),
      kept.Perm (s.members.filter (keep ·.1)) →
        (Json.parse (Json.Value.object kept).text).map ofJson = some (.ok (keeping keep s {})) := by
  have distinct : (s.members.map Prod.fst).Nodup := members_names s ▸ names_nodup
  obtain ⟨written, object, placed⟩ := Json.Value.ofMembers_perm distinct
  have partly (keep : String → Bool) (kept : List (String × Json.Value))
      (h : kept.Perm (s.members.filter (keep ·.1))) :
      (Json.parse (Json.Value.object kept).text).map ofJson = some (.ok (keeping keep s {})) :=
    parse_text h
  refine ⟨⟨written, (toJson_eq s).trans object, placed⟩, ?_, partly⟩
  have everything : s.members.filter (fun _ => true) = s.members := List.filter_true s.members
  rw [toJson_eq, object]
  exact partly (fun _ => true) written (everything.symm ▸ placed)

/-- A path with a tab, quotes and letters beyond the first plane, read back from members in reverse
order while the level and the directives are left out. -/
theorem settings_read_back_path :
    let s : Settings :=
      { level := "debug", target := .file "日誌\t\"😀\"", directives := ["a=b"] }
    let kept := [("ansi", .bool true), ("timestamps", .bool true),
      ("file_prefix", .string "postal"), ("rotation", .string "daily"), ("target", s.target.toJson),
      ("format", .string "compact")]
    (Json.parse (Json.Value.object kept).text).map ofJson =
      some (.ok { target := .file "日誌\t\"😀\"" }) := by
  intro s kept
  obtain ⟨-, -, partly⟩ := settings_read_back s
  have left : s.members.filter (fun m => m.1 ≠ "level" && m.1 ≠ "directives") = kept.reverse := rfl
  have left_out : kept.Perm (s.members.filter fun m => m.1 ≠ "level" && m.1 ≠ "directives") :=
    left ▸ kept.reverse_perm.symm
  exact partly (fun n => n ≠ "level" && n ≠ "directives") kept left_out

end Settings

end Log

end MessageBus
