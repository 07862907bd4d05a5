import ConfidentialToken.HashLock
import ConfidentialToken.Proofs.Json.RoundTrip

/-!
Types all of whose values are read back.
-/

namespace ConfidentialToken

namespace Json

/-- A JSON form from which every value is read back. -/
class LawfulForm (α : Type) [JsonForm α] : Prop where
  roundTrips : ∀ value : α, RoundTrips value

section

variable {α : Type} [JsonForm α] [LawfulForm α]

@[simp]
theorem plain_toJson (value : α) : (toJson value).Plain :=
  (LawfulForm.roundTrips value).plain

@[simp]
theorem fromJson_toJson (value : α) : fromJson (toJson value) = some value :=
  (LawfulForm.roundTrips value).back

@[simp]
theorem required_toJson (value : α) : required (some (toJson value)) = some value :=
  fromJson_toJson value

@[simp]
theorem optional_toJson (missing value : α) :
    optional missing (some (toJson value)) = some value :=
  fromJson_toJson value

@[simp]
theorem read_write (value : α) : Json.read (write value) = .ok value :=
  (LawfulForm.roundTrips value).read_write

/-- What was written is read as a value of another type if its JSON form denotes
one. -/
theorem read?_write_eq {β : Type} [JsonForm β] (value : α) :
    (read? (write value) : Option β) = fromJson (toJson value) := by
  rw [read?, write, parse_render (plain_toJson value), Option.bind_some]

@[simp]
theorem read?_write (value : α) : read? (write value) = some value := by
  rw [read?_write_eq, fromJson_toJson]

theorem write_ne_nil (value : α) : write value ≠ [] := by
  intro empty
  have parsed := parse_render (plain_toJson value)
  have none : parse [] = none := rfl
  rw [show (toJson value).render = [] from empty, none] at parsed
  cases parsed

instance : LawfulForm (List α) where
  roundTrips _ := roundTrips_list fun value _ => LawfulForm.roundTrips value

end

theorem plain_pair {name otherName : String} {value other : Value} (plain : value.Plain)
    (otherPlain : other.Plain) :
    (Value.object [(name, value), (otherName, other)]).Plain :=
  .object (by simp [plain, otherPlain])

instance : LawfulForm String := ⟨roundTrips_string⟩

instance : LawfulForm UInt64 := ⟨roundTrips_uint64⟩

instance : LawfulForm Bool := ⟨fun value => ⟨.bool value, rfl⟩⟩

instance : LawfulForm KeyedData := ⟨KeyedData.roundTrips⟩

instance : LawfulForm TokenId := ⟨TokenId.roundTrips⟩

instance : LawfulForm TokenRequest := ⟨TokenRequest.roundTrips⟩

instance : LawfulForm Identity where
  roundTrips _ := ⟨plain_hex _, congrArg (Option.map Identity.mk) (ofHex_hex _)⟩

instance : LawfulForm TypedIdentity where
  roundTrips typed := {
    plain := .object (by simp [plain_hex])
    back := by
      have fields : (toJson typed).fields ["type", "identity"] =
          some [some (toJson typed.scheme), some (hex typed.content)] :=
        fields_object rfl (by decide)
      simp [fromJson, fields, requiredHex_hex] }

end Json

open Json

namespace HashLock

instance : LawfulForm HashFunction where
  roundTrips function := by
    cases function
    exact ⟨.string _, rfl⟩

instance : LawfulForm HashForm where
  roundTrips form := by
    cases form <;> exact ⟨.string _, rfl⟩

instance : LawfulForm Lock where
  roundTrips lock := {
    plain := .object (by simp [plain_hex])
    back := by
      have fields : (toJson lock).fields ["hash", "hash_func", "hash_encoding"] =
          some [some (hex lock.hash), some (toJson lock.function),
            some (toJson lock.form)] :=
        fields_object rfl (by decide)
      simp [fromJson, fields, requiredHex_hex] }

instance : LawfulForm Script where
  roundTrips script := {
    plain := .object (by simp)
    back := by
      have fields :
        (toJson script).fields ["sender", "recipient", "deadline", "hash_info"] =
          some [some (toJson script.sender), some (toJson script.recipient),
            some (toJson script.deadline), some (toJson script.lock)] :=
        fields_object rfl (by decide)
      simp [fromJson, fields] }

end HashLock

end ConfidentialToken
