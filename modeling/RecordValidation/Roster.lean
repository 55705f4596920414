/-!
Entries under keys, in increasing order of the keys. Two rosters that hold the
same entries are equal, in whatever order these were entered.
-/

namespace RecordValidation

structure Roster (κ α : Type) where
  entries : List (κ × α)

namespace Roster

variable {κ α : Type}

def empty : Roster κ α := ⟨[]⟩

instance : Inhabited (Roster κ α) := ⟨empty⟩

section

variable [DecidableEq κ]

/-- The entry of a key in a list of entries. -/
def lookup (key : κ) : List (κ × α) → Option α
  | [] => none
  | (k, value) :: rest => if k = key then some value else lookup key rest

def find? (r : Roster κ α) (key : κ) : Option α := lookup key r.entries

def contains (r : Roster κ α) (key : κ) : Bool := (r.find? key).isSome

def keys (r : Roster κ α) : List κ := r.entries.map (·.1)

def size (r : Roster κ α) : Nat := r.entries.length

def isEmpty (r : Roster κ α) : Bool := r.entries.isEmpty

variable [LT κ] [DecidableLT κ]

/-- Puts an entry in its place, instead of another one under the same key. -/
def place (key : κ) (value : α) : List (κ × α) → List (κ × α)
  | [] => [(key, value)]
  | (k, old) :: rest =>
    if k = key then (key, value) :: rest
    else if key < k then (key, value) :: (k, old) :: rest
    else (k, old) :: place key value rest

def insert (r : Roster κ α) (key : κ) (value : α) : Roster κ α := ⟨place key value r.entries⟩

theorem lookup_place (key : κ) (value : α) (entries : List (κ × α)) (k : κ) :
    lookup k (place key value entries) = if key = k then some value else lookup k entries := by
  induction entries with
  | nil => simp [place, lookup]
  | cons entry rest ih =>
    obtain ⟨k', old⟩ := entry
    rw [place]
    split
    · next h =>
      subst h
      simp only [lookup]
      split <;> rfl
    · split
      · simp only [lookup]
      · next h _ =>
        simp only [lookup, ih]
        split
        · next hk => rw [if_neg (fun he => h (hk.trans he.symm))]
        · rfl

/-- An order in which different keys can be compared, and in one way only. -/
structure KeyOrder (κ : Type) [LT κ] : Prop where
  asymm : ∀ {a b : κ}, a < b → ¬b < a
  trans : ∀ {a b c : κ}, a < b → b < c → a < c
  connex : ∀ {a b : κ}, a ≠ b → a < b ∨ b < a

theorem place_cons_of_eq {key k : κ} (h : k = key) (value old : α) (rest : List (κ × α)) :
    place key value ((k, old) :: rest) = (key, value) :: rest := by
  rw [place, if_pos h]

theorem place_cons_of_lt {key k : κ} (hne : k ≠ key) (h : key < k) (value old : α)
    (rest : List (κ × α)) :
    place key value ((k, old) :: rest) = (key, value) :: (k, old) :: rest := by
  rw [place, if_neg hne, if_pos h]

theorem place_cons_of_not_lt {key k : κ} (hne : k ≠ key) (h : ¬key < k) (value old : α)
    (rest : List (κ × α)) :
    place key value ((k, old) :: rest) = (k, old) :: place key value rest := by
  rw [place, if_neg hne, if_neg h]

/-- An entry with the least key comes first, also when the others are put in place. -/
theorem place_place_of_lt (order : KeyOrder κ) {a b k : κ} (hab : a < b) (hak : a < k)
    (x y old : α) (rest : List (κ × α)) :
    place a x (place b y ((k, old) :: rest)) = (a, x) :: place b y ((k, old) :: rest) := by
  have hne : ∀ {c : κ}, a < c → c ≠ a := by
    rintro c h rfl
    exact order.asymm h h
  by_cases hkb : k = b
  · rw [place_cons_of_eq hkb, place_cons_of_lt (hne hab) hab]
  · by_cases hbk : b < k
    · rw [place_cons_of_lt hkb hbk, place_cons_of_lt (hne hab) hab]
    · rw [place_cons_of_not_lt hkb hbk, place_cons_of_lt (hne hak) hak]

theorem place_comm_of_lt (order : KeyOrder κ) {a b : κ} (hab : a < b) (x y : α)
    (entries : List (κ × α)) :
    place b y (place a x entries) = place a x (place b y entries) := by
  have hba : ¬b < a := order.asymm hab
  have hne : a ≠ b := by
    rintro rfl
    exact hba hab
  induction entries with
  | nil =>
    rw [place, place, place_cons_of_not_lt hne hba, place, place_cons_of_lt hne.symm hab]
  | cons entry rest ih =>
    obtain ⟨k, old⟩ := entry
    by_cases hka : k = a
    · subst hka
      rw [place_cons_of_eq rfl, place_cons_of_not_lt hne hba, place_cons_of_not_lt hne hba,
        place_cons_of_eq rfl]
    · rcases order.connex hka with hlt | hlt
      · have hkb : k ≠ b := by
          rintro rfl
          exact order.asymm hab hlt
        have hbk : ¬b < k := order.asymm (order.trans hlt hab)
        rw [place_cons_of_not_lt hka (order.asymm hlt), place_cons_of_not_lt hkb hbk,
          place_cons_of_not_lt hkb hbk, place_cons_of_not_lt hka (order.asymm hlt), ih]
      · rw [place_cons_of_lt hka hlt, place_cons_of_not_lt hne hba,
          place_place_of_lt order hab hlt]

/-- Entries under different keys can be put in place in either order. -/
theorem insert_comm (order : KeyOrder κ) {a b : κ} (hne : a ≠ b) (r : Roster κ α) (x y : α) :
    (r.insert a x).insert b y = (r.insert b y).insert a x := by
  unfold insert
  rcases order.connex hne with hlt | hlt
  · rw [place_comm_of_lt order hlt]
  · rw [place_comm_of_lt order hlt]

theorem find?_insert (r : Roster κ α) (key : κ) (value : α) (k : κ) :
    (r.insert key value).find? k = if key = k then some value else r.find? k :=
  lookup_place key value r.entries k

omit [LT κ] [DecidableLT κ] in
theorem isSome_lookup_iff {key : κ} {entries : List (κ × α)} :
    (lookup key entries).isSome ↔ key ∈ entries.map (·.1) := by
  induction entries with
  | nil => simp [lookup]
  | cons entry rest ih =>
    obtain ⟨k, value⟩ := entry
    rw [lookup, List.map_cons, List.mem_cons]
    split
    · next h => simp [h]
    · next h => rw [ih, or_iff_right (Ne.symm h)]

omit [LT κ] [DecidableLT κ] in
theorem mem_keys_iff {r : Roster κ α} {key : κ} : key ∈ r.keys ↔ (r.find? key).isSome :=
  isSome_lookup_iff.symm

theorem mem_keys_place {key k : κ} {value : α} {entries : List (κ × α)} :
    k ∈ (place key value entries).map (·.1) ↔ k = key ∨ k ∈ entries.map (·.1) := by
  rw [← isSome_lookup_iff, lookup_place, ← isSome_lookup_iff]
  split
  · next h => simp [h]
  · next h => rw [or_iff_right (Ne.symm h)]

/-- A roster whose keys are in increasing order. -/
def Sorted (r : Roster κ α) : Prop := r.keys.Pairwise (· < ·)

theorem sorted_insert (order : KeyOrder κ) {r : Roster κ α} (h : r.Sorted) (key : κ)
    (value : α) : (r.insert key value).Sorted := by
  obtain ⟨entries⟩ := r
  unfold Sorted keys insert at *
  induction entries with
  | nil => exact List.pairwise_singleton _ key
  | cons entry rest ih =>
    obtain ⟨k, old⟩ := entry
    obtain ⟨hfirst, hrest⟩ := List.pairwise_cons.mp h
    by_cases hk : k = key
    · subst hk
      rw [place_cons_of_eq rfl]
      exact h
    by_cases hlt : key < k
    · rw [place_cons_of_lt hk hlt]
      refine List.pairwise_cons.mpr ⟨fun k' hk' => ?_, h⟩
      rcases List.mem_cons.mp hk' with rfl | hk'
      · exact hlt
      · exact order.trans hlt (hfirst k' hk')
    · have hkey : k < key := (order.connex hk).resolve_right hlt
      rw [place_cons_of_not_lt hk hlt]
      refine List.pairwise_cons.mpr ⟨fun k' hk' => ?_, ih hrest⟩
      rcases mem_keys_place.mp hk' with rfl | hk'
      · exact hkey
      · exact hfirst k' hk'

end

end Roster

end RecordValidation
