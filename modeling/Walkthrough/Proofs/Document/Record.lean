import Mathlib.Data.List.Nodup
import Walkthrough.Document.Reading

namespace Walkthrough.Document

/-- How a document is read: as one value, or as a record with fields of these names. -/
inductive Shape
  | value
  | record (names : List String) (field : String → Shape)

namespace Shape

/-- A record is an object, whose keys are distinct, and so are the records in it. -/
def fits : Shape → Node → Bool
  | value, _ => true
  | record _ field, .table given =>
    decide (given.map Prod.fst).Nodup && given.all fun e => (field e.1).fits e.2
  | record _ _, _ => false

/-- The base with the given fields in place of its own, those of records again field by field. -/
def overlay : Shape → Node → Node → Node
  | record _ field, .table given, .table base =>
    .table (base.map fun e => (e.1, (given.lookup e.1).elim e.2 fun n => (field e.1).overlay n e.2))
  | _, given, _ => given

def prune : Shape → Node → Node
  | record names field, .table given =>
    .table ((given.filter fun e => names.contains e.1).map fun e => (e.1, (field e.1).prune e.2))
  | _, n => n

theorem exists_of_fits {names : List String} {field : String → Shape} {n : Node}
    (h : (record names field).fits n = true) :
    ∃ given, n = .table given ∧ (given.map Prod.fst).Nodup ∧
      ∀ e ∈ given, (field e.1).fits e.2 = true := by
  cases n with
  | table given =>
    obtain ⟨hkeys, hall⟩ := Bool.and_eq_true_iff.mp h
    exact ⟨given, rfl, of_decide_eq_true hkeys, List.all_eq_true.mp hall⟩
  | _ => contradiction

end Shape

section Lookup

variable {β γ : Type} {l : List (String × β)} {key : String}

theorem lookup_map (f : String → β → γ) (l : List (String × β)) (key : String) :
    (l.map fun e => (e.1, f e.1 e.2)).lookup key = (l.lookup key).map (f key) := by
  induction l with
  | nil => rfl
  | cons e l ih =>
    rw [List.map_cons, List.lookup_cons, List.lookup_cons, ih]
    cases h : key == e.1 with
    | false => rfl
    | true => rw [eq_of_beq h]; rfl

theorem lookup_filter {p : String → Bool} (hp : p key = true) (l : List (String × β)) :
    (l.filter fun e => p e.1).lookup key = l.lookup key := by
  induction l with
  | nil => rfl
  | cons e l ih =>
    rw [List.filter_cons, List.lookup_cons]
    cases h : key == e.1 with
    | false =>
      split
      · rw [List.lookup_cons, h, ih]
      · exact ih
    | true =>
      rw [← eq_of_beq h, if_pos hp, List.lookup_cons, h]

theorem mem_of_lookup {x : β} (h : l.lookup key = some x) : (key, x) ∈ l := by
  obtain ⟨before, after, rfl, -⟩ := List.lookup_eq_some_iff.mp h
  simp

end Lookup

namespace Fields

theorem ofNode?_table {entries : List (String × Node)} (h : (entries.map Prod.fst).Nodup)
    (names : List String) (complete : Bool) :
    ofNode? names complete (.table entries) = some fun name => entries.lookup name := by
  have hcount (name : String) : ¬ 1 < entries.countP fun e => e.1 == name := by
    have hcount := List.nodup_iff_count_le_one.mp h name
    rw [List.count_eq_countP, List.countP_map] at hcount
    exact Nat.not_lt.mpr hcount
  unfold ofNode?
  exact if_neg (by simpa using fun name _ => Nat.not_lt.mp (hcount name))

end Fields

/-- A reader that finds `a` in the base, and what is given over the base, with or without unknown
fields. -/
structure Shape.Reads {α : Type} (shape : Shape) (read : Reader α) (base : Node) (a : α) : Prop where
  of_base : read base = some a
  overlay : ∀ n, shape.fits n = true → read (shape.overlay n base) = read n
  prune : ∀ n, shape.fits n = true → read (shape.prune n) = read n

theorem Shape.Reads.value {α : Type} {read : Reader α} {base : Node} {a : α}
    (h : read base = some a) : Shape.value.Reads read base a :=
  ⟨h, fun _ _ => rfl, fun _ _ => rfl⟩

/-- Fields that all readers of the fields of a base take alike. -/
abbrev Fields.Alike (field : String → Shape) (base : List (String × Node)) (f g : Fields) : Prop :=
  ∀ {α : Type} (name : String) (read : Reader α) (a : α),
    (∃ d, base.lookup name = some d ∧ (field name).Reads read d a) →
      f.getD name read a = g.getD name read a

section Record

variable {field : String → Shape} {base given : List (String × Node)}

theorem Fields.alike_overlay (hfits : ∀ e ∈ given, (field e.1).fits e.2 = true) :
    Alike field base
      (fun name => (base.map fun e =>
        (e.1, (given.lookup e.1).elim e.2 fun n => (field e.1).overlay n e.2)).lookup name)
      (fun name => given.lookup name) := by
  intro α name read a ⟨d, hd, hreads⟩
  unfold getD
  dsimp only
  rw [lookup_map (fun key x => (given.lookup key).elim x fun n => (field key).overlay n x), hd]
  -- where nothing is given, the base stands for what the reader takes as missing
  cases hgiven : given.lookup name with
  | none => exact hreads.of_base
  | some n => exact hreads.overlay n (hfits _ (mem_of_lookup hgiven))

theorem Fields.alike_prune {names : List String} (hnames : base.map Prod.fst = names)
    (hfits : ∀ e ∈ given, (field e.1).fits e.2 = true) :
    Alike field base
      (fun name => ((given.filter fun e => names.contains e.1).map fun e =>
        (e.1, (field e.1).prune e.2)).lookup name)
      (fun name => given.lookup name) := by
  intro α name read a ⟨d, hd, hreads⟩
  have hname : names.contains name = true := by
    rw [List.contains_iff_mem, ← hnames]
    exact List.mem_map_of_mem (mem_of_lookup hd)
  unfold getD
  dsimp only
  rw [lookup_map (fun key x => (field key).prune x), lookup_filter hname]
  cases hgiven : given.lookup name with
  | none => rfl
  | some n => exact hreads.prune n (hfits _ (mem_of_lookup hgiven))

/-- A reader of records that only looks at what the fields of the base are read as. -/
theorem Shape.Reads.record {α : Type} {names : List String} {read : Reader α}
    {build : Fields → Option α} {a : α} (hnames : base.map Prod.fst = names) (hnodup : names.Nodup)
    (hread : ∀ n, read n = (Fields.ofNode? names false n).bind build)
    (hbuild : ∀ f g, Fields.Alike field base f g → build f = build g)
    (hbase : read (.table base) = some a) :
    (Shape.record names field).Reads read (.table base) a := by
  have hsame {l given : List (String × Node)} (hl : (l.map Prod.fst).Nodup)
      (hgiven : (given.map Prod.fst).Nodup)
      (h : Fields.Alike field base (fun name => l.lookup name) fun name => given.lookup name) :
      read (.table l) = read (.table given) := by
    rw [hread, hread, Fields.ofNode?_table hl, Fields.ofNode?_table hgiven]
    exact hbuild _ _ h
  refine ⟨hbase, fun n hn => ?_, fun n hn => ?_⟩
  · obtain ⟨given, rfl, hkeys, hfits⟩ := exists_of_fits hn
    refine hsame ?_ hkeys (Fields.alike_overlay hfits)
    rw [List.map_map]
    exact (hnames ▸ hnodup : (base.map Prod.fst).Nodup)
  · obtain ⟨given, rfl, hkeys, hfits⟩ := exists_of_fits hn
    refine hsame ?_ hkeys (Fields.alike_prune hnames hfits)
    rw [List.map_map]
    exact hkeys.sublist (List.filter_sublist.map Prod.fst)

end Record

end Walkthrough.Document
