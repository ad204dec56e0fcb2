import DeviceFleet.Fleet.Moves

/-! The fleet left alone: moves are made as long as there are any. The dispatcher comes
first, then the consumers, then the devices to be woken; the wait of the dispatcher ends
only when nothing else can go on. -/

namespace DeviceFleet.Fleet

/-- The moves in the order in which they are tried. -/
def moves (f : Fleet) (s : Stamp) : List Move :=
  let first := (f.devices.loop.map (·.choice f.bus)).getD 0
  [.dispatch, .devices first s, .pushInfos s.now, .queues s.now] ++
    (List.range f.audits.length).map .audit ++ [.wake, .expire]

def advance (f : Fleet) (s : Stamp) : Option Outcome := (f.moves s).findSome? f.perform

theorem advance_lt {f f' : Fleet} {s : Stamp} {ns : List Notice}
    (h : f.advance s = some (f', ns)) : f'.load.Less f.load := by
  obtain ⟨m, -, hm⟩ := List.exists_of_findSome?_eq_some h
  exact perform_lt hm

/-- The fleet when no move is left, and the number of the next stamp; `n` is that of the
first. -/
def settle (stamps : Nat → Stamp) (n : Nat) (f : Fleet) : Nat × Outcome :=
  match _h : f.advance (stamps n) with
  | none => (n, f, [])
  | some (f', ns) =>
    let (n, f, ms) := settle stamps (n + 1) f'
    (n, f, ns ++ ms)
termination_by f.load
decreasing_by exact advance_lt _h

end DeviceFleet.Fleet
