import Passkey.Proofs.Wire.Members
import Passkey.Software.Client
import Passkey.Wire.ClientData

/-!
# Client data is read as it was written

The members of client data may be written in any order. What a client in software collects is read as
just that: its type, challenge and origin, the statement that the origin is the top one, and nothing
else.
-/

namespace Passkey

open Json Wire

instance : LawfulNamed TokenBindingStatus := ⟨by rintro (_ | _ | _) <;> decide⟩

theorem TokenBinding.carries (b : TokenBinding) : Carries b.toJson ofJson? b := by
  refine Assembles.carries ?_ .rfl (by decide)
  refine (carries_named b.status).required.next ?_
  refine (sent_optional fun id _ => carries_text id).next ?_
  exact assembles_done rfl

namespace ClientData

theorem carries_of_perm (d : ClientData) {written : List (String × Option Json)}
    (hperm : written.Perm
      [("type", some (ofText d.type)), ("challenge", some (ofBytes d.challenge)),
        ("origin", some (ofText d.origin)), ("crossOrigin", d.crossOrigin.map .bool),
        ("topOrigin", d.topOrigin.map ofText),
        ("tokenBinding", d.tokenBinding.map TokenBinding.toJson)]) :
    Carries (ofMembers written) ofJson? d := by
  refine Assembles.carries (Assembles.perm ?_ hperm) (hperm.map (·.1)) (by decide)
  refine (carries_text d.type).required.next ?_
  refine (carries_bytes d.challenge).required.next ?_
  refine (carries_text d.origin).required.next ?_
  refine (sent_optional fun b _ => carries_bool b).next ?_
  refine (sent_optional fun o _ => carries_text o).next ?_
  refine (sent_optional fun b _ => b.carries).next ?_
  exact assembles_done rfl

theorem carries (d : ClientData) : Carries d.toJson ofJson? d := d.carries_of_perm .rfl

theorem decode_clientDataJson (type : String) (challenge : Bytes) (origin : String) :
    decode (clientDataJson type challenge origin) =
      .ok ⟨type, challenge, origin, some false, none, none⟩ := by
  let d : ClientData := ⟨type, challenge, origin, some false, none, none⟩
  have hperm (c x o t : String × Option Json) (rest : List (String × Option Json)) :
      (c :: x :: o :: t :: rest).Perm (t :: c :: o :: x :: rest) :=
    (List.perm_middle : ([c, x, o] ++ t :: rest).Perm (t :: ([c, x, o] ++ rest))).trans
      (((List.Perm.swap o x rest).cons c).cons t)
  -- The members that are not there may be thought of as written last.
  have hcarries : Carries (ofMembers [("challenge", some (ofBytes challenge)),
      ("crossOrigin", some (.bool false)), ("origin", some (ofText origin)),
      ("type", some (ofText type)), ("topOrigin", none), ("tokenBinding", none)]) ofJson? d :=
    d.carries_of_perm (hperm _ _ _ _ _)
  have hread : Json.read? (clientDataJson type challenge origin) >>= ofJson? = some d :=
    hcarries.read_write
  rw [decode, hread]

end ClientData

end Passkey
