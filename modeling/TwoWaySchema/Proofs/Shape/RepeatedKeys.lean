import TwoWaySchema.Proofs.Shape.Reading
import TwoWaySchema.Schema

/-!
# Repeated keys

A map is read from pairs in one pass over them.  Each pair is added as soon as it is read, unless
the map has its key already, which is an error at that key.  So the keys that a pair can repeat are
those of the earlier pairs that were read as a whole: a key is forgotten when its value is wrong,
and a wrong value keeps its own key from being looked up.
-/

namespace TwoWaySchema

/-! ## One pair -/

namespace Parts

variable {κ ν : Type} [Ord κ] {read : Json → Outcome (κ × ν)} {map : SortedMap κ ν} {x : Json}

/-- The map after one more pair: it changes only when the pair is read and its key is new. -/
def addPair (read : Json → Outcome (κ × ν)) (map : SortedMap κ ν) (x : Json) : SortedMap κ ν :=
  match read x with
  | .ok (key, value) => if map.contains key then map else map.insert key value
  | .error _ => map

/-- The errors of one more pair, which has the given index. -/
def pairErrors (read : Json → Outcome (κ × ν)) (i : Nat) (map : SortedMap κ ν) (x : Json) :
    List ErrorEntry :=
  match read x with
  | .ok (key, _) => if map.contains key then [duplicateKey i] else []
  | .error failure => (failure.within (.index i)).errors

theorem addPairs_cons {i : Nat} {rest : List Json} :
    (addPairs read i map (x :: rest)).1 =
      pairErrors read i map x ++ (addPairs read (i + 1) (addPair read map x) rest).1 := by
  rw [addPairs, pairErrors, addPair]
  cases read x with
  | error failure => rfl
  | ok entry =>
    obtain ⟨key, value⟩ := entry
    cases hcontains : map.contains key <;> simp [Outcome.within, hcontains]

theorem mem_pairErrors_iff {i : Nat} {error : ErrorEntry} :
    error ∈ pairErrors read i map x ↔ error ∈ ((read x).within (.index i)).errors ∨
      error = duplicateKey i ∧ ∃ entry, read x = .ok entry ∧ map.contains entry.1 = true := by
  rw [pairErrors]
  cases read x with
  | error failure => simp [Outcome.within, Outcome.errors]
  | ok entry =>
    obtain ⟨key, value⟩ := entry
    cases hcontains : map.contains key <;> simp [Outcome.within, Outcome.errors, hcontains]

variable [Std.TransOrd κ]

/-- The map then has the keys that it had and the key of the pair, be it new or not. -/
theorem contains_addPair_iff {key : κ} :
    (addPair read map x).contains key = true ↔
      map.contains key = true ∨ ∃ entry, read x = .ok entry ∧ compare key entry.1 = .eq := by
  rw [addPair]
  cases read x with
  | error failure => simp
  | ok entry =>
    obtain ⟨other, value⟩ := entry
    cases hcontains : map.contains other with
    | false => simp [hcontains, SortedMap.contains_insert_iff, or_comm]
    | true =>
      -- the key of the pair is one that the map had
      have hother : compare key other = .eq → map.contains key = true := by
        intro heq
        obtain ⟨stored, hstored, hequal⟩ := SortedMap.contains_iff.1 hcontains
        exact SortedMap.contains_iff.2 ⟨stored, hstored, Std.TransCmp.eq_trans heq hequal⟩
      simpa [hcontains] using hother

/-! ## All pairs -/

/-- An error is one of a pair that is not read, or it is about a pair that is read, whose key the
map or an earlier pair that is read has already. -/
theorem mem_addPairs_iff {items : List Json} {i : Nat} {error : ErrorEntry} :
    error ∈ (addPairs read i map items).1 ↔ ∃ j x, items[j]? = some x ∧
      (error ∈ ((read x).within (.index (i + j))).errors ∨
        error = duplicateKey (i + j) ∧ ∃ entry, read x = .ok entry ∧
          (map.contains entry.1 = true ∨ ∃ y ∈ items.take j, ∃ earlier,
            read y = .ok earlier ∧ compare entry.1 earlier.1 = .eq)) := by
  induction items generalizing i map with
  | nil => simp [addPairs]
  | cons x rest ih =>
    rw [addPairs_cons, List.mem_append, mem_pairErrors_iff, ih]
    refine Iff.trans ?_ Nat.or_exists_add_one
    -- the rest starts from a map that knows the first pair, if it is read
    simp [contains_addPair_iff, Nat.add_right_comm i 1, Nat.add_assoc i, or_assoc]

end Parts

/-! ## Errors of pairs -/

namespace Parts

variable {κ ν : Type} {readKey : Json → Outcome κ} {readValue : Json → Outcome ν}

/-- What a map says of a key that it has already. -/
def repeatedKey : ErrorEntry :=
  ⟨[], .shapeMismatch, "duplicate key in map"⟩

theorem duplicateKey_eq (i : Nat) :
    duplicateKey i = (repeatedKey.within (.index 0)).within (.index i) := rfl

theorem within_mem_errors_within_iff {α : Type} {error : ErrorEntry} {s t : PathSegment}
    {outcome : Outcome α} :
    error.within s ∈ (outcome.within t).errors ↔ s = t ∧ error ∈ outcome.errors := by
  rw [Outcome.errors_within, List.mem_map]
  constructor
  · rintro ⟨other, hother, heq⟩
    simp only [ErrorEntry.within, ErrorEntry.mk.injEq, List.cons.injEq] at heq
    obtain ⟨⟨rfl, hpath⟩, hkind, hmessage⟩ := heq
    obtain rfl : other = error := by
      cases other
      cases error
      simp_all
    exact ⟨rfl, hother⟩
  · rintro ⟨rfl, herror⟩
    exact ⟨error, herror, rfl⟩

theorem errors_readPair (k v : Json) :
    (readPair readKey readValue (.array [k, v])).errors =
      ((readKey k).within (.index 0)).errors ++ ((readValue v).within (.index 1)).errors := by
  rw [readPair]
  cases readKey k <;> cases readValue v <;> rfl

theorem readPair_array_eq_ok_iff {k v : Json} {entry : κ × ν} :
    readPair readKey readValue (.array [k, v]) = .ok entry ↔
      readKey k = .ok entry.1 ∧ readValue v = .ok entry.2 := by
  rw [readPair_eq_ok_iff]
  constructor
  · rintro ⟨_, _, ⟨⟩, h⟩
    exact h
  · exact fun h ↦ ⟨k, v, rfl, h⟩

/-- A pair that is not read says that a key is repeated only if its own key does. -/
theorem duplicateKey_mem_errors_readPair_iff {i j : Nat} {k v : Json} :
    duplicateKey i ∈ ((readPair readKey readValue (.array [k, v])).within (.index j)).errors ↔
      i = j ∧ repeatedKey ∈ (readKey k).errors := by
  rw [duplicateKey_eq, within_mem_errors_within_iff, errors_readPair, List.mem_append,
    within_mem_errors_within_iff, within_mem_errors_within_iff]
  simp

theorem errors_of_readPairs_eq_error [Ord κ] {items : List Json} {failure : Failure}
    (h : (readPairs readKey readValue items : Outcome (SortedMap κ ν)) = .error failure) :
    failure.errors = (addPairs (readPair readKey readValue) 0 .empty items).1 := by
  unfold readPairs at h
  dsimp only at h
  split at h
  next => cases h
  next => rw [← Except.error.inj h]

end Parts

/-! ## Maps -/

/-- The relation holds between any two elements when each element is related to those before it. -/
theorem pairwise_iff_forall_take {α : Type} {r : α → α → Prop} {as : List α} :
    as.Pairwise r ↔ ∀ (i : Nat) (a : α), as[i]? = some a → ∀ b ∈ as.take i, r b a := by
  rw [List.pairwise_iff_getElem]
  constructor
  · intro h i a ha b hb
    obtain ⟨hi, rfl⟩ := List.getElem?_eq_some_iff.1 ha
    obtain ⟨j, hj, rfl⟩ := List.mem_take_iff_getElem.1 hb
    exact h j i _ hi (by omega)
  · intro h i j hi hj hij
    refine h j as[j] (List.getElem?_eq_getElem hj) as[i] ?_
    exact List.mem_take_iff_getElem.2 ⟨i, by omega, rfl⟩

namespace Schema

variable {σ κ ν : Type} {keys : Schema σ κ} {values : Schema σ ν} {pairs : List (Json × Json)}

def arrayOfPairs (pairs : List (Json × Json)) : Json :=
  .array (pairs.map fun pair ↦ .array [pair.1, pair.2])

/-- The pair has the key, whatever its value is. -/
def ReadsKey (keys : Schema σ κ) (pair : Json × Json) (key : κ) : Prop :=
  keys.parse pair.1 = .ok key

/-- The pair has the key, and its value is read too. -/
def ReadsPair (keys : Schema σ κ) (values : Schema σ ν) (pair : Json × Json) (key : κ) : Prop :=
  keys.parse pair.1 = .ok key ∧ ∃ value, values.parse pair.2 = .ok value

/-- The pair with this index has a key that an earlier pair has. -/
def RepeatsKey [Ord κ] (reads : Json × Json → κ → Prop) (pairs : List (Json × Json)) (i : Nat) :
    Prop :=
  ∃ pair key, pairs[i]? = some pair ∧ reads pair key ∧
    ∃ earlier ∈ pairs.take i, ∃ other, reads earlier other ∧ compare key other = .eq

theorem forall_not_repeatsKey_iff [Ord κ] {reads : Json × Json → κ → Prop} :
    (∀ i, ¬ RepeatsKey reads pairs i) ↔ pairs.Pairwise fun earlier pair ↦
      ∀ key other, reads pair key → reads earlier other → compare key other ≠ .eq := by
  rw [pairwise_iff_forall_take]
  simp only [RepeatsKey]
  grind

/-- Between pairs that are read, no key is repeated when the keys of the entries differ. -/
theorem forall_not_repeatsKey_iff_of_forall₂ [Ord κ] {entries : List (κ × ν)}
    (h : List.Forall₂ (fun pair entry ↦ keys.parse pair.1 = .ok entry.1 ∧
      values.parse pair.2 = .ok entry.2) pairs entries) :
    (∀ i, ¬ RepeatsKey keys.ReadsKey pairs i) ↔
      entries.Pairwise fun earlier later ↦ compare later.1 earlier.1 ≠ .eq := by
  rw [forall_not_repeatsKey_iff]
  constructor
  · intro hpairs
    refine pairwise_of_forall₂ (fun earlier later a b ha hb hne ↦ ?_) hpairs h
    exact hne _ _ hb.1 ha.1
  · intro hentries
    refine pairwise_of_forall₂ (fun a b earlier later ha hb hne key other hkey hother ↦ ?_)
      hentries h.flip
    rw [ReadsKey, hb.1, Except.ok.injEq] at hkey
    rw [ReadsKey, ha.1, Except.ok.injEq] at hother
    rwa [← hkey, ← hother]

/-- A key is repeated, whatever the values, where one is repeated by pairs that are read, if every
pair with a key has a value. -/
theorem repeatsKey_readsPair_iff [Ord κ]
    (h : ∀ pair ∈ pairs, ∀ key, keys.parse pair.1 = .ok key →
      ∃ value, values.parse pair.2 = .ok value) (i : Nat) :
    RepeatsKey (keys.ReadsPair values) pairs i ↔ RepeatsKey keys.ReadsKey pairs i := by
  have hreads : ∀ pair ∈ pairs, ∀ key, keys.ReadsPair values pair key ↔ keys.ReadsKey pair key :=
    fun pair hpair key ↦ and_iff_left_of_imp (h pair hpair key)
  refine exists_congr fun pair ↦ exists_congr fun key ↦ and_congr_right fun hpair ↦ ?_
  refine and_congr (hreads pair (List.mem_of_getElem? hpair) key) (exists_congr fun earlier ↦ ?_)
  refine and_congr_right fun hearlier ↦ exists_congr fun other ↦ and_congr_left fun _ ↦ ?_
  exact hreads earlier (List.mem_of_mem_take hearlier) other

theorem parse_arrayOfPairs [Ord κ] :
    (mapOf keys values).parse (arrayOfPairs pairs) =
      Parts.readPairs keys.parse values.parse
        (pairs.map fun pair ↦ .array [pair.1, pair.2]) := rfl

/-- A map is read from pairs when each of them is and their keys differ; its entries are theirs. -/
theorem parse_arrayOfPairs_eq_ok_iff [Ord κ] [Std.TransOrd κ]
    (hkeys : ∀ x, (keys.parse x).IsExplained) (hvalues : ∀ x, (values.parse x).IsExplained)
    {m : SortedMap κ ν} :
    (mapOf keys values).parse (arrayOfPairs pairs) = .ok m ↔
      ∃ entries, List.Forall₂ (fun pair entry ↦ keys.parse pair.1 = .ok entry.1 ∧
          values.parse pair.2 = .ok entry.2) pairs entries ∧
        (∀ i, ¬ RepeatsKey keys.ReadsKey pairs i) ∧ .ofList entries = m := by
  rw [parse_arrayOfPairs, Parts.readPairs_eq_ok_iff hkeys hvalues]
  refine exists_congr fun entries ↦ ?_
  rw [List.forall₂_map_left_iff]
  simp only [← Parts.readPair_eq_ok_iff, Parts.readPair_array_eq_ok_iff]
  refine and_congr_right fun hread ↦ and_congr_left fun _ ↦ ?_
  rw [forall_not_repeatsKey_iff_of_forall₂ hread, SortedMap.areNew_iff]
  exact and_iff_right fun _ _ ↦ rfl

/-- The errors at the keys of pairs that are read are those of keys that an earlier pair, which is
read too, has already. -/
theorem duplicateKey_mem_errors_iff [Ord κ] [Std.TransOrd κ] {failure : Failure}
    (h : (mapOf keys values).parse (arrayOfPairs pairs) = .error failure) (i : Nat) :
    Parts.duplicateKey i ∈ failure.errors ↔ RepeatsKey (keys.ReadsPair values) pairs i ∨
      ∃ pair, pairs[i]? = some pair ∧ Parts.repeatedKey ∈ (keys.parse pair.1).errors := by
  rw [parse_arrayOfPairs] at h
  rw [Parts.errors_of_readPairs_eq_error h, Parts.mem_addPairs_iff]
  simp only [Nat.zero_add, List.getElem?_map, Option.map_eq_some_iff, ← List.map_take]
  constructor
  · rintro ⟨j, x, ⟨pair, hpair, rfl⟩, hown | ⟨hindex, entry, hentry, hknown⟩⟩
    · obtain ⟨rfl, herror⟩ := Parts.duplicateKey_mem_errors_readPair_iff.1 hown
      exact .inr ⟨pair, hpair, herror⟩
    · obtain rfl : i = j := by simpa [Parts.duplicateKey] using hindex
      obtain ⟨hkey, hvalue⟩ := Parts.readPair_array_eq_ok_iff.1 hentry
      obtain ⟨_, hmem, stored, hstored, hequal⟩ := hknown.resolve_left nofun
      obtain ⟨earlier, hearlier, rfl⟩ := List.mem_map.1 hmem
      obtain ⟨hkey', hvalue'⟩ := Parts.readPair_array_eq_ok_iff.1 hstored
      exact .inl ⟨pair, entry.1, hpair, ⟨hkey, _, hvalue⟩, earlier, hearlier, stored.1,
        ⟨hkey', _, hvalue'⟩, hequal⟩
  · rintro (⟨pair, key, hpair, ⟨hkey, value, hvalue⟩, earlier, hearlier, other,
      ⟨hother, stored, hstored⟩, hequal⟩ | ⟨pair, hpair, herror⟩)
    · refine ⟨i, _, ⟨pair, hpair, rfl⟩, .inr ⟨rfl, (key, value), ?_, .inr ⟨_,
        List.mem_map_of_mem hearlier, (other, stored), ?_, hequal⟩⟩⟩
      · exact Parts.readPair_array_eq_ok_iff.2 ⟨hkey, hvalue⟩
      · exact Parts.readPair_array_eq_ok_iff.2 ⟨hother, hstored⟩
    · exact ⟨i, _, ⟨pair, hpair, rfl⟩,
        .inl (Parts.duplicateKey_mem_errors_readPair_iff.2 ⟨rfl, herror⟩)⟩

/-- Of the keys that come twice a map reports those of pairs that are read as a whole, of which
there is an earlier one; these are all such keys only if no key stands beside a value that is not
read.  A map is read when all keys and values are and no key comes twice, and then it has one entry
for each pair. -/
theorem mapOf_reports_repeated_keys [Ord κ] [Std.TransOrd κ]
    (hkeys : ∀ x, (keys.parse x).IsExplained) (hvalues : ∀ x, (values.parse x).IsExplained)
    (pairs : List (Json × Json)) :
    (∀ failure, (mapOf keys values).parse (arrayOfPairs pairs) = .error failure → ∀ i,
      (Parts.duplicateKey i ∈ failure.errors ↔ RepeatsKey (keys.ReadsPair values) pairs i ∨
        ∃ pair, pairs[i]? = some pair ∧ Parts.repeatedKey ∈ (keys.parse pair.1).errors)) ∧
    ((∀ pair ∈ pairs, ∀ key, keys.parse pair.1 = .ok key →
        ∃ value, values.parse pair.2 = .ok value) →
      ∀ i, RepeatsKey (keys.ReadsPair values) pairs i ↔ RepeatsKey keys.ReadsKey pairs i) ∧
    ((∃ m, (mapOf keys values).parse (arrayOfPairs pairs) = .ok m) ↔
      (∀ pair ∈ pairs, (∃ key, keys.parse pair.1 = .ok key) ∧
        ∃ value, values.parse pair.2 = .ok value) ∧
      ∀ i, ¬ RepeatsKey keys.ReadsKey pairs i) ∧
    ∀ m, (mapOf keys values).parse (arrayOfPairs pairs) = .ok m →
      ∃ entries, List.Forall₂ (fun pair entry ↦ keys.parse pair.1 = .ok entry.1 ∧
        values.parse pair.2 = .ok entry.2) pairs entries ∧ m.entries.Perm entries := by
  refine ⟨fun _ ↦ duplicateKey_mem_errors_iff, repeatsKey_readsPair_iff, ?_, fun m hm ↦ ?_⟩
  · simp only [parse_arrayOfPairs_eq_ok_iff hkeys hvalues]
    have hentries : (∃ entries : List (κ × ν), List.Forall₂ (fun pair entry ↦
        keys.parse pair.1 = .ok entry.1 ∧ values.parse pair.2 = .ok entry.2) pairs entries) ↔ _ :=
      exists_forall₂_iff
    simp only [Prod.exists, exists_and_left, exists_and_right] at hentries
    rw [← hentries]
    constructor
    · rintro ⟨m, entries, hread, hnew, -⟩
      exact ⟨⟨entries, hread⟩, hnew⟩
    · rintro ⟨⟨entries, hread⟩, hnew⟩
      exact ⟨_, entries, hread, hnew, rfl⟩
  · obtain ⟨entries, hread, hnew, rfl⟩ := (parse_arrayOfPairs_eq_ok_iff hkeys hvalues).1 hm
    rw [forall_not_repeatsKey_iff_of_forall₂ hread] at hnew
    have hempty : (SortedMap.empty : SortedMap κ ν).AreNew entries :=
      SortedMap.areNew_iff.2 ⟨fun _ _ ↦ rfl, hnew⟩
    exact ⟨entries, hread, SortedMap.insertAll_perm hempty⟩

/-- How many there are of each part. -/
def stockSchema : Schema Json (SortedMap String Int64) :=
  mapOf string integer

/-- The nuts come twice, and so do the bolts, the first of them without a number. -/
def stock : List (Json × Json) :=
  [(.string "nut", .number (.ofInt64 1)), (.string "nut", .number (.ofInt64 2)),
    (.string "bolt", .string "x"), (.string "bolt", .number (.ofInt64 3))]

/-- The second nuts, and the number of the first bolts. -/
def stockErrors : List ErrorEntry :=
  [⟨[.index 1, .index 0], .shapeMismatch, "duplicate key in map"⟩,
    ⟨[.index 2, .index 1], .typeMismatch, "expected integer, found string"⟩]

/-- The second bolts repeat a key, which is no error beside the missing number of the first. -/
theorem stockSchema_misses_repeated_key :
    stockSchema.parse (arrayOfPairs stock) = .error ⟨stockErrors, none⟩ ∧
      RepeatsKey (string : Schema Json String).ReadsKey stock 3 ∧
      Parts.duplicateKey 3 ∉ stockErrors := by
  refine ⟨rfl, ⟨_, "bolt", rfl, rfl, (.string "bolt", .string "x"), ?_, "bolt", rfl, ?_⟩, ?_⟩
  · exact List.mem_cons_of_mem _ (List.mem_cons_of_mem _ List.mem_cons_self)
  · exact Std.ReflOrd.compare_self
  · decide

theorem stockSchema_reports_repeated_key :
    (∀ x, ((string : Schema Json String).parse x).IsExplained) ∧
      (∀ x, ((integer : Schema Json Int64).parse x).IsExplained) ∧
      stockSchema.parse (arrayOfPairs stock) = .error ⟨stockErrors, none⟩ ∧
      RepeatsKey ((string : Schema Json String).ReadsPair (integer : Schema Json Int64)) stock 1 ∧
      ¬ RepeatsKey ((string : Schema Json String).ReadsPair (integer : Schema Json Int64))
        stock 3 := by
  have hstring : (Shape.string false : Shape Json String).IsStandard := trivial
  have hinteger : (Shape.integer false : Shape Json Int64).IsStandard := trivial
  have hkeys : ∀ x, ((string : Schema Json String).parse x).IsExplained :=
    fun x ↦ Shape.isExplained_parse hstring (some x)
  have hvalues : ∀ x, ((integer : Schema Json Int64).parse x).IsExplained :=
    fun x ↦ Shape.isExplained_parse hinteger (some x)
  have hread : stockSchema.parse (arrayOfPairs stock) = .error ⟨stockErrors, none⟩ := rfl
  have hreports := (mapOf_reports_repeated_keys hkeys hvalues stock).1 _ hread
  refine ⟨hkeys, hvalues, hread, ?_, fun hrepeats ↦ ?_⟩
  · refine ((hreports 1).1 (by decide)).resolve_right ?_
    rintro ⟨pair, hpair, herror⟩
    obtain rfl := Option.some.inj hpair
    cases herror
  · exact absurd ((hreports 3).2 (.inl hrepeats)) (by decide)

end Schema

end TwoWaySchema
