import DeviceFleet.Message.Topic
import DeviceFleet.Proofs.Bus.Sound

/-! Subscribing, as changes of the bus. On a bus that is idle the subscription is registered at
once. -/

namespace DeviceFleet.Bus

variable {kept : List Nat} {b : Bus}

/-- What the dispatcher does until it is idle is a course of turns. -/
theorem leads_settle (b : Bus) : Leads kept b b.settle.1 := by
  fun_induction settle b with
  | case1 => exact .refl
  | case2 b b' ws advanced ih =>
    refine .head ?_ ih
    rw [advance] at advanced
    split at advanced
    · rename_i stepped
      cases advanced
      exact change_of_step stepped
    · obtain ⟨running, turn⟩ := turn_of_expire advanced
      exact .turn running turn

theorem leads_subscribe (b : Bus) (name topic : String) : Leads kept b (b.subscribe name topic).1.1 := by
  rw [subscribe]
  split
  · exact .refl
  · rename_i running
    exact .head (.request (Bool.eq_false_iff.2 running) name topic) (leads_settle _)

def joined (b : Bus) (name topic : String) : Bus :=
  { b with
    table := b.table ++ [⟨b.nextId, name, topic, [], true, 0, 0⟩]
    count := b.count + 1
    nextId := b.nextId + 1 }

structure Idle (b : Bus) : Prop where
  running : b.stopped = false
  current : b.current = none
  inbox : b.inbox = []

theorem idle_joined (h : b.Idle) (name topic : String) : (b.joined name topic).Idle :=
  ⟨h.running, h.current, h.inbox⟩

theorem settle_of_advance {b' : Bus} {ws : List Warning} (h : b.advance = some (b', ws)) :
    b.settle = b'.settle.after ws := by
  rw [settle]
  split
  · rename_i none
    rw [h] at none
    cases none
  · rename_i some
    rw [h] at some
    cases some
    rfl

theorem settle_idle (h : b.Idle) : b.settle = (b, []) := by
  have still : b.advance = none := by
    rw [advance, step, if_neg (Bool.eq_false_iff.1 h.running), h.current, h.inbox]
    rw [expire, if_neg (Bool.eq_false_iff.1 h.running), h.current]
  rw [settle]
  split
  · rfl
  · rename_i some
    rw [still] at some
    cases some

/-- An idle dispatcher registers a subscription that is asked for. -/
theorem step_request (h : b.Idle) (room : b.count < maxSubscriptions) (name topic : String) :
    (b.request name topic).1.step = some (b.joined name topic, []) := by
  rw [step, request, if_neg (Bool.eq_false_iff.1 h.running), h.current, h.inbox]
  simp only [List.nil_append, handle, register, if_pos room]
  rw [joined, h.inbox, h.current]

theorem subscribe_idle (h : b.Idle) (room : b.count < maxSubscriptions) (name topic : String) :
    b.subscribe name topic = ((b.joined name topic, []), .ok b.nextId) := by
  have running := Bool.eq_false_iff.1 h.running
  have registered : (b.request name topic).1.advance = some (b.joined name topic, []) := by
    rw [advance, step_request h room]
  have settled : (b.request name topic).1.settle = (b.joined name topic, []) := by
    rw [settle_of_advance registered, settle_idle (idle_joined h name topic)]
    rfl
  have found : ((b.joined name topic).find? b.nextId).isSome = true := by
    rw [find?, List.find?_isSome]
    exact ⟨_, List.mem_append_right _ (List.mem_singleton_self _), decide_eq_true rfl⟩
  rw [subscribe, if_neg running]
  simp only [settled]
  rw [show (b.request name topic).2 = b.nextId from rfl, if_pos found]

theorem subscribe_full (h : b.Idle) (sound : b.Sound) (full : ¬b.count < maxSubscriptions)
    (name topic : String) : (b.subscribe name topic).2 = .error limitReached := by
  have running := Bool.eq_false_iff.1 h.running
  have next : (b.request name topic).1.inbox = [.subscribe b.nextId name topic] := by
    rw [request, h.inbox]
    rfl
  have refused : (b.request name topic).1.advance = some ({ b with nextId := b.nextId + 1 }, []) := by
    rw [advance, step, request, if_neg running, h.current, h.inbox]
    simp only [List.nil_append, handle, register, if_neg full]
  have idle : ({ b with nextId := b.nextId + 1 } : Bus).Idle := ⟨h.running, h.current, h.inbox⟩
  have settled : (b.request name topic).1.settle = ({ b with nextId := b.nextId + 1 }, []) := by
    rw [settle_of_advance refused, settle_idle idle]
    rfl
  have change : Change [] b (b.request name topic).1 := .request h.running name topic
  have missing : ({ b with nextId := b.nextId + 1 } : Bus).find? b.nextId = none :=
    (sound_change sound change).find?_first next
  rw [subscribe, if_neg running]
  simp only [settled]
  rw [show (b.request name topic).2 = b.nextId from rfl, missing, if_neg (by simp), if_neg running]

/-- Several subscriptions get successive identifiers. -/
theorem subscribeAll_idle (h : b.Idle) (name : String) {topics : List String}
    (room : b.count + topics.length ≤ maxSubscriptions) :
    b.subscribeAll name topics =
      ((topics.foldl (·.joined name ·) b, []), .ok (List.range' b.nextId topics.length)) := by
  induction topics generalizing b with
  | nil => rfl
  | cons topic topics ih =>
    rw [List.length_cons] at room
    have others := ih (idle_joined h name topic)
      (show b.count + 1 + topics.length ≤ maxSubscriptions by omega)
    rw [subscribeAll, subscribe_idle h (by omega)]
    simp only [others]
    rfl

/-- New subscriptions come about by requests and turns. -/
theorem leads_joined (h : b.Idle) {subs : List (String × Topic)}
    (room : b.count + subs.length ≤ maxSubscriptions) :
    Leads kept b (subs.foldl (fun b s => b.joined s.1 s.2.name) b) := by
  induction subs generalizing b with
  | nil => exact .refl
  | cons s subs ih =>
    rw [List.length_cons] at room
    have first : Leads kept b (b.joined s.1 s.2.name) := by
      have subscribed : Leads kept b _ := leads_subscribe b s.1 s.2.name
      rw [subscribe_idle h (by omega)] at subscribed
      exact subscribed
    exact first.trans (ih (idle_joined h _ _) (show b.count + 1 + subs.length ≤ _ by omega))

end DeviceFleet.Bus
