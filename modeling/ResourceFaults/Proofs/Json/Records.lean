import Mathlib
import ResourceFaults.Json.Record
import ResourceFaults.Proofs.Json.Codecs

/-!
# Records read back from their objects

A record is written with every field once, in the order of the record.  Reading finds
each field by its name, so it needs the names to differ, and nothing else about the
record: what is read is the blank value after the setters of its fields
(`Record.reads`).
-/

namespace ResourceFaults.Json

variable {α β : Type}

/-- Whether a field of `a` is read as `set` from every text of what it is written as. -/
def Field.Reads (field : Field α) (a : α) (set : α → α) : Prop :=
  ∀ ⦃sp cs rest : List Char⦄, AreSpaces sp → Spells (field.write a) cs → EndsValue rest →
    field.read (sp ++ (cs ++ rest)) = .ok (set, rest)

theorem Codec.Reads.field {codec : Codec β} {a : α} {get : α → β} {b : β}
    (h : codec.Reads (get a) b) (name : String) (set : β → α → α) :
    (Field.of name codec get set).Reads a (set b) := by
  intro sp cs rest hsp hcs hrest
  have hread := h hsp hcs hrest
  show (codec.read _).map _ = _
  rw [hread]
  rfl

theorem Codec.Reads.optionalField {codec : Codec β} {a : α} {get : α → Option β} {b : Option β}
    (h : codec.optional.Reads (get a) b) (name : String) (set : Option β → α → α) :
    (Field.ofOptional name codec get set).Reads a (set b) :=
  h.field name set

namespace Record

/-! ## Names -/

theorem nextKey_close (first : Bool) {sp : List Char} (hsp : AreSpaces sp) (rest : List Char) :
    nextKey first (sp ++ '\x7d' :: rest) = .ok (none, '\x7d' :: rest) := by
  rw [nextKey, skipSpace_append hsp, skipSpace_cons rfl]
  rfl

theorem nextKey_name (first : Bool) {sp : List Char} (hsp : AreSpaces sp) (name : String)
    (rest : List Char) :
    nextKey first (comma first ++ (sp ++ (stringChars name ++ rest))) = .ok (some name, rest) := by
  have hread := readString_escape name.toList rest
  have hskip : skipSpace (sp ++ '"' :: (name.toList.flatMap escapeChar ++ '"' :: rest)) =
      '"' :: (name.toList.flatMap escapeChar ++ '"' :: rest) := by
    rw [skipSpace_append hsp, skipSpace_cons rfl]
  rw [stringChars_append]
  cases first with
  | true =>
    rw [comma, if_pos rfl, List.nil_append, nextKey, hskip]
    simp [hread, Except.map]
  | false =>
    have hcomma : ∀ cs, skipSpace (',' :: cs) = ',' :: cs := skipSpace_cons rfl
    rw [comma, if_neg Bool.false_ne_true, List.singleton_append, nextKey, hcomma]
    simp [hskip, hread, Except.map]

theorem readColon_cons (rest : List Char) : readColon (':' :: rest) = .ok rest := by
  rw [readColon, skipSpace_cons rfl]
  rfl

/-- A field is found by its name. -/
theorem find?_name {fields : List (Field α)} (hnames : (fields.map (·.name)).Nodup)
    {field : Field α} (h : field ∈ fields) :
    fields.find? (·.name == field.name) = some field := by
  induction fields with
  | nil => exact absurd h List.not_mem_nil
  | cons f fields ih =>
    rw [List.map_cons, List.nodup_cons] at hnames
    rcases List.mem_cons.1 h with rfl | h
    · exact List.find?_cons_of_pos (beq_self_eq_true _)
    · have hne : f.name ≠ field.name := fun heq =>
        hnames.1 (heq ▸ List.mem_map_of_mem h)
      rw [List.find?_cons_of_neg (by simpa using hne)]
      exact ih hnames.2 h

/-! ## Entries -/

variable {r : Record α}

/-- The entries of an object are read one by one, each into the field it names, and the
closing brace is left. -/
theorem readEntries_of_spells (hnames : (r.fields.map (·.name)).Nodup) {a : α}
    {todo : List (Field α)} {sets : List (α → α)}
    (h : List.Forall₂ (fun field set => field.Reads a set) todo sets)
    (hfields : ∀ field ∈ todo, field ∈ r.fields) (htodo : (todo.map (·.name)).Nodup)
    {seen : List String} (hseen : ∀ field ∈ todo, field.name ∉ seen)
    {fuel : Nat} (hfuel : todo.length ≤ fuel) {first : Bool} {acc : α} {cs rest : List Char}
    (hcs : SpellsFields first (todo.map fun field => (field.name, field.write a)) cs) :
    r.readEntries (fuel + 1) first seen acc (cs ++ rest) =
      .ok (((todo.map (·.name)).reverse ++ seen, sets.foldl (fun acc set => set acc) acc),
        '\x7d' :: rest) := by
  induction h generalizing seen fuel first acc cs with
  | nil =>
    cases hcs with
    | close hsp =>
      rw [List.append_assoc, List.singleton_append, readEntries, nextKey_close first hsp, ok_bind]
      rfl
  | @cons field set todo sets ha has ih =>
    obtain ⟨fuel, rfl⟩ := Nat.exists_eq_add_one.2 (Nat.zero_lt_of_lt hfuel)
    obtain ⟨hfield, hfields⟩ := List.forall_mem_cons.1 hfields
    obtain ⟨hfresh, hseen⟩ := List.forall_mem_cons.1 hseen
    obtain ⟨hnew, htodo⟩ := List.nodup_cons.1 htodo
    cases hcs with
    | @field _ _ _ _ sp gap cs more hsp hgap hd hmore =>
      have hfound := find?_name hnames hfield
      have hcontains : seen.contains field.name = false := by simpa using hfresh
      have hread := ha hgap hd (hmore.endsValue rest)
      have hothers : ∀ f ∈ todo, f.name ∉ field.name :: seen := by
        intro f hf
        rw [List.mem_cons, not_or]
        exact ⟨fun heq => hnew (List.mem_map.2 ⟨f, hf, heq⟩), hseen f hf⟩
      have hrest : r.readEntries (fuel + 1) false (field.name :: seen) (set acc) (more ++ rest) =
          _ := ih hfields htodo hothers (Nat.le_of_succ_le_succ hfuel) hmore
      have hcs : comma first ++ (sp ++ (stringChars field.name ++ ':' :: (gap ++ (cs ++ more))))
          ++ rest = comma first ++ (sp ++ (stringChars field.name ++
            ':' :: (gap ++ (cs ++ (more ++ rest))))) := by
        simp only [List.append_assoc, List.cons_append]
      rw [hcs, readEntries, nextKey_name first hsp, ok_bind]
      simp only [hfound, hcontains]
      rw [if_neg Bool.false_ne_true, readColon_cons, ok_bind, hread, ok_bind]
      simp only
      rw [hrest]
      simp

/-- A record is read from its object: every field by its name, and none is missing. -/
theorem reads (hnames : (r.fields.map (·.name)).Nodup) {a : α} {sets : List (α → α)}
    (h : List.Forall₂ (fun field set => field.Reads a set) r.fields sets) :
    r.codec.Reads a (sets.foldl (fun acc set => set acc) r.blank) := by
  intro sp cs rest hsp hcs hrest
  have hobject : Spells (.object (r.fields.map fun field => (field.name, field.write a))) cs := hcs
  cases hobject with
  | @object _ cs hfields =>
    have hfuel : r.fields.length ≤ (cs ++ rest).length := by
      have hle := hfields.length_le
      rw [List.length_map] at hle
      rw [List.length_append]
      omega
    have hread : r.readEntries (_ + 1) true [] r.blank (cs ++ rest) = _ :=
      readEntries_of_spells hnames h (fun _ hfield => hfield) hnames
        (fun _ _ => List.not_mem_nil) hfuel hfields
    have hmissing : r.missing? ((r.fields.map (·.name)).reverse ++ []) = none := by
      rw [missing?, List.find?_eq_none]
      intro field hfield
      simp [List.mem_map_of_mem hfield]
    show r.read _ = _
    rw [read, skipSpace_append hsp, List.cons_append, skipSpace_cons rfl]
    show r.readObject (cs ++ rest) = _
    rw [readObject, hread, ok_bind]
    simp only [hmissing]
    rfl

end Record

end ResourceFaults.Json
