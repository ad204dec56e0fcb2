import DeviceFleet.Fleet.Basic
import DeviceFleet.Proofs.Message.ResponseBody

/-! A response comes to the fleet in its body or as it is. Both ways end alike except for a response
from the channel of a user in which something is missing: as a body it is refused for what is missing
in it, and as it is for its channel. -/

namespace DeviceFleet.Fleet

variable (f : Fleet) (r : Response) (s : Stamp)

theorem acknowledge_of_user (h : r.isUserScoped = true) :
    f.acknowledge r s = f.refuse Delivery.userResponse := by
  rw [acknowledge, Delivery.acknowledge, if_pos h]
  rfl

theorem acknowledge_of_invalid (h : r.isUserScoped = false) {e : Error} (invalid : r.validate = .error e) :
    f.acknowledge r s = f.refuse e := by
  rw [acknowledge, Delivery.acknowledge, h, invalid]
  rfl

/-- The body of a response is refused for what is missing in it, and else the response is taken. -/
theorem connect_toWire : f.connect r.toWire s = match r.validate with
    | .error e => f.refuse e
    | .ok () => f.acknowledge r s := by
  rw [connect, Response.decode_toWire]
  cases r.validate <;> rfl

/-- Whatever the fleet and the time: a response and its body end in the same fleet, with the same
notices and the same answer, just if the response is not from the channel of a user or nothing is
missing in it. As it is, a response from the channel of a user is always refused for its channel. Its
body is too if nothing is missing in it, and else it is refused as invalid; neither changes or
publishes anything. -/
theorem connect_agrees_iff :
    (f.connect r.toWire s = f.acknowledge r s ↔ r.isUserScoped = false ∨ r.validate = .ok ()) ∧
    (r.isUserScoped = true → f.acknowledge r s = f.refuse Delivery.userResponse ∧
      f.connect r.toWire s = match r.validate with
        | .error e => f.refuse e
        | .ok () => f.refuse Delivery.userResponse) ∧
    ∀ e, r.validate = .error e → e.kind = .validation ∧ Delivery.userResponse.kind ≠ e.kind := by
  have invalid (e : Error) (missing : r.validate = .error e) :
      e.kind = .validation ∧ Delivery.userResponse.kind ≠ e.kind := by
    rw [Response.kind_of_validate missing]
    exact ⟨rfl, nofun⟩
  rw [connect_toWire]
  cases user : r.isUserScoped with
  | false =>
    refine ⟨⟨fun _ => .inl rfl, fun _ => ?_⟩, nofun, invalid⟩
    cases complete : r.validate with
    | error e => exact (f.acknowledge_of_invalid r s user complete).symm
    | ok => rfl
  | true =>
    rw [f.acknowledge_of_user r s user]
    refine ⟨?_, fun _ => ⟨rfl, rfl⟩, invalid⟩
    cases complete : r.validate with
    | error e =>
      refine ⟨fun same => ?_, nofun⟩
      have kinds := (invalid e complete).2
      cases same
      exact absurd rfl kinds
    | ok => exact ⟨fun _ => .inr rfl, fun _ => rfl⟩

/-- A report from the channel of a user that names no command is refused as invalid in its body, and
for its channel as it is. -/
theorem connect_disagrees_unnamed :
    let f : Fleet := new .empty ⟨1, .block, 0⟩ (fun _ _ => ⟨none, .ok ""⟩) 5
    let r : Response := ⟨"UDID-1", some "alice", .acknowledged, none, none, []⟩
    let s : Stamp := ⟨"e-1", .ofNanos 0⟩
    f.connect r.toWire s = f.refuse (Response.missingCommand .acknowledged) ∧
      f.acknowledge r s = f.refuse Delivery.userResponse ∧
      (Response.missingCommand .acknowledged).kind = .validation ∧
      Delivery.userResponse.kind = .protocolReject := by
  intro f r s
  refine ⟨?_, f.acknowledge_of_user r s (by decide), rfl, rfl⟩
  rw [connect_toWire]
  rfl

end DeviceFleet.Fleet
