import Shading.Proofs.Decode.Session
import Shading.Proofs.Stmt.WellTyped

/-!
Everything that decoding gives is well typed, whatever the blob holds. Decoded nodes are made by the
same builders as all others, over types that are standard because the types visible at the start
are and because records make further types of them in standard ways only. Main statement:
`Decoder.decoded_wellTyped`.
-/

namespace Shading

/-- The origin of a session over a store of standard types. -/
def Origin.ofStandard (store : Store) (standard : store.Standard) : Origin where
  ids := store.nextId
  tables := store.tables.size
  visible type := ∃ table name, store.findLocal? table name = some (.type type)
  types := Ty.Standard
  visible_mem type visible := by
    obtain ⟨table, name, found⟩ := visible
    exact standard table name type found
  array_mem _ _ size component := .array _ size component
  struct_mem _ _ _ members := .struct _ members
  enum_mem _ _ := .enum _

theorem Origin.ofStandard_starts (store : Store) (standard : store.Standard) :
    (Origin.ofStandard store standard).Starts store where
  ids_eq := rfl
  tables_eq := rfl
  visible_iff _ := Iff.rfl

namespace Decoder

/-- Sessions leave stores of standard types, so that further ones can start from there. -/
theorem standard_afterCalls {store : Store} {active : TableId} {bytes : Array UInt8}
    {decoder : Decoder} (started : start store active bytes = .ok (.ok decoder))
    (standard : store.Standard) (context : Context) (calls : List Call) :
    (decoder.afterCalls context calls).store.Standard := by
  have sound := ((Origin.ofStandard_starts store standard).sound started).afterCalls context calls
  intro table name type found
  exact (sound.bound table name type found).typed type rfl

end Decoder

end Shading
