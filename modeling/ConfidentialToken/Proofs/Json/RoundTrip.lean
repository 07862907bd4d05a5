import ConfidentialToken.Proofs.Json.Reading
import ConfidentialToken.Request

/-!
Which objects are read back as they were written.

The JSON form of an object is a plain value, and reading this value gives the
object. An object with elements of a suite is read back if the elements are
decoded as they were encoded.
-/

namespace ConfidentialToken

namespace Json

/-- A value whose JSON form denotes it. -/
structure RoundTrips {α : Type} [JsonForm α] (value : α) : Prop where
  plain : (toJson value).Plain
  back : fromJson (toJson value) = some value

/-- What was written is read. -/
theorem RoundTrips.read_write {α : Type} [JsonForm α] {value : α}
    (trips : RoundTrips value) : Json.read (write value) = .ok value := by
  have parsed := parse_render trips.plain
  rw [Json.read, read?, write, parsed, Option.bind_some, trips.back]

/-- A field that was written is there to be read. -/
theorem RoundTrips.required_eq {α : Type} [JsonForm α] {value : α}
    (trips : RoundTrips value) : required (some (toJson value)) = some value :=
  trips.back

theorem valuesOf_eq {members : List (String × Value)}
    (distinct : (members.map Prod.fst).Nodup) {member : String × Value}
    (among : member ∈ members) : valuesOf member.1 members = [member.2] := by
  induction members with
  | nil => exact absurd among List.not_mem_nil
  | cons first members inductionHypothesis =>
      obtain ⟨fresh, distinctRest⟩ := List.nodup_cons.mp distinct
      rcases List.mem_cons.mp among with rfl | amongRest
      · have others : valuesOf member.1 members = [] := by
          refine List.filterMap_eq_nil_iff.mpr fun other membership => ?_
          refine if_neg fun same => fresh ?_
          exact List.mem_map.mpr ⟨other, membership, same⟩
        simpa [valuesOf] using others
      · have different : first.1 ≠ member.1 := fun same =>
          fresh (List.mem_map.mpr ⟨member, amongRest, same.symm⟩)
        have others := inductionHypothesis distinctRest amongRest
        simpa [valuesOf, different] using others

/-- The fields of an object are found under their names, which are distinct. -/
theorem fields_object {members : List (String × Value)} {names : List String}
    (named : members.map Prod.fst = names) (distinct : names.Nodup) :
    (Value.object members).fields names =
      some (members.map fun member => some member.2) := by
  subst named
  refine mapM_map_eq_some_map fun member among => ?_
  rw [member?, valuesOf_eq distinct among]

theorem roundTrips_string (text : String) : RoundTrips text :=
  ⟨.string text, rfl⟩

theorem roundTrips_uint64 (number : UInt64) : RoundTrips number where
  plain := .natural number.toNat_lt
  back := by simp [toJson, fromJson, number.toNat_lt]

theorem roundTrips_uint8 (number : UInt8) : RoundTrips number where
  plain := .natural (Nat.lt_trans number.toNat_lt (by decide))
  back := by simp [toJson, fromJson, number.toNat_lt]

theorem roundTrips_list {α : Type} [JsonForm α] {values : List α}
    (trips : ∀ value ∈ values, RoundTrips value) : RoundTrips values where
  plain := by
    refine .array fun item membership => ?_
    obtain ⟨value, among, rfl⟩ := List.mem_map.mp membership
    exact (trips value among).plain
  back := mapM_map_eq_some fun value membership => (trips value membership).back

theorem roundTrips_option {α : Type} [JsonForm α] {value : Option α}
    (trips : ∀ present ∈ value, RoundTrips present)
    (notNull : ∀ present : α, toJson present ≠ .null) : RoundTrips value := by
  cases value with
  | none => exact ⟨.null, rfl⟩
  | some present =>
      have inner := trips present rfl
      refine ⟨inner.plain, ?_⟩
      change fromJson (toJson present) = some (some present)
      have back := inner.back
      have form := notNull present
      generalize toJson present = value at back form
      cases value <;> simp_all [fromJson]

theorem plain_hex (bytes : Bytes) : (hex bytes).Plain :=
  .string _

theorem requiredHex_hex (bytes : Bytes) : requiredHex (some (hex bytes)) = some bytes :=
  ofHex_hex bytes

theorem optionalHex_hex (bytes : Bytes) : optionalHex (some (hex bytes)) = some bytes :=
  ofHex_hex bytes

theorem plain_hexList (list : List Bytes) : (hexList list).Plain := by
  refine .array fun item membership => ?_
  obtain ⟨bytes, -, rfl⟩ := List.mem_map.mp membership
  exact plain_hex bytes

theorem optionalHexList_hexList (list : List Bytes) :
    optionalHexList (some (hexList list)) = some list :=
  mapM_map_eq_some fun bytes _ => ofHex_hex bytes

/-- A pair of a tag and a content is found where the tag comes first. -/
theorem tagged_object {tag content : String} (distinct : tag ≠ content) (label : String)
    (body : Value) (enclosing : Nat) :
    (Value.object [(tag, .string label), (content, body)]).tagged tag content enclosing =
      some (label, body) := by
  have fields :
    (Value.object [(tag, .string label), (content, body)]).fields [tag, content] =
      some [some (.string label), some body] :=
    fields_object rfl (by simpa using distinct)
  simp [Value.tagged, fields, Value.variant?, distinct]

/-- An element is read back if it is decoded as it was encoded. -/
theorem roundTrips_element {α : Type} [BinaryEncoding α] {element : α}
    (decoded : decodeElement (encode element) = .ok element) :
    @RoundTrips α (elementForm α) element :=
  @RoundTrips.mk α (elementForm α) element (plain_hex _) (by
    change ((ofHex (hex (encode element))).bind fun bytes =>
      (decodeElement bytes).toOption) =
      some element
    rw [ofHex_hex, Option.bind_some, decoded]
    rfl)

end Json

open Json

/-- Every request is read back as it was written. -/
theorem TokenRequest.roundTrips (request : TokenRequest) : RoundTrips request where
  plain := by
    refine .object ?_
    simp [plain_hexList]
  back := by
    have fields : (toJson request).fields
        ["issues", "transfers", "signatures", "auditor_signatures"] = some [
          some (hexList request.issues), some (hexList request.transfers),
          some (hexList request.signatures), some (hexList request.auditorSignatures)] :=
      fields_object rfl (by decide)
    simp [fromJson, fields, optionalHexList_hexList]

theorem TokenId.roundTrips (id : TokenId) : RoundTrips id where
  plain := by
    refine .object ?_
    simp [(roundTrips_string id.transaction).plain, (roundTrips_uint64 id.index).plain]
  back := by
    have fields : (toJson id).fields ["tx_id", "index"] =
        some [some (toJson id.transaction), some (toJson id.index)] :=
      fields_object rfl (by decide)
    simp [fromJson, fields, (roundTrips_string id.transaction).required_eq,
      (roundTrips_uint64 id.index).required_eq]

namespace KeyedData

theorem insertEntry_append {key : String} (value : Bytes)
    {entries : List (String × Bytes)} (greatest : ∀ entry ∈ entries, entry.1 < key) :
    insertEntry key value entries = entries ++ [(key, value)] := by
  induction entries with
  | nil => rfl
  | cons entry entries inductionHypothesis =>
      have less := greatest entry List.mem_cons_self
      have notLess : ¬ key < entry.1 := String.lt_asymm less
      have different : key ≠ entry.1 := fun same => String.lt_irrefl key (same ▸ less)
      rw [insertEntry, if_neg notLess, if_neg different,
        inductionHypothesis fun entry membership =>
          greatest entry (List.mem_cons_of_mem _ membership)]
      rfl

theorem foldl_insert {data : KeyedData} {rest : List (String × Bytes)}
    (sorted : (data.entries ++ rest).Pairwise fun left right => left.1 < right.1) :
    (rest.foldl (fun data (key, value) => data.insert key value) data).entries =
      data.entries ++ rest := by
  induction rest generalizing data with
  | nil => exact (List.append_nil _).symm
  | cons entry rest inductionHypothesis =>
      obtain ⟨key, value⟩ := entry
      have greatest : ∀ entry ∈ data.entries, entry.1 < key := fun entry membership =>
        (List.pairwise_append.mp sorted).2.2 entry membership
          (key, value) List.mem_cons_self
      have inserted : (data.insert key value).entries = data.entries ++ [(key, value)] :=
        insertEntry_append value greatest
      rw [List.append_cons, ← inserted] at sorted ⊢
      exact inductionHypothesis sorted

/-- Sorted entries stay as they are when they are put in one after the other. -/
theorem ofList_entries (data : KeyedData) : ofList data.entries = data := by
  have entries : (ofList data.entries).entries = data.entries := foldl_insert data.sorted
  cases whole : ofList data.entries
  cases data
  simpa [whole] using entries

theorem roundTrips (data : KeyedData) : RoundTrips data where
  plain := by
    refine .object fun member membership => ?_
    obtain ⟨entry, -, rfl⟩ := List.mem_map.mp membership
    exact (roundTrips_list fun byte _ => roundTrips_uint8 byte).plain
  back := by
    refine Option.bind_eq_some_iff.mpr
      ⟨data.entries, ?_, congrArg some data.ofList_entries⟩
    refine mapM_map_eq_some fun entry _ => ?_
    have back : RoundTrips entry.2 := roundTrips_list fun byte _ => roundTrips_uint8 byte
    exact Option.bind_eq_some_iff.mpr ⟨entry.2, back.back, rfl⟩

end KeyedData

end ConfidentialToken
