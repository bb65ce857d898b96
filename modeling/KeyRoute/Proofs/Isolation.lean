-- Routers that share nothing but the metrics. What a router does among others it does alone: each
-- turn comes to what the turns at its own place make of it. So turns at different places can be put
-- in any order, and no router learns of it. All of them move one registry of metrics, but a turn
-- only adds to what stands there; and as sums go, the order is not seen there either.
import KeyRoute.Metrics.Text
import KeyRoute.Proofs.Discretion

namespace KeyRoute

/-! ## Lists told by their parts -/

/-- Two lists with the same elements of each key, in the same order, have the same elements. -/
theorem perm_of_filter_key {α : Type} (key : α → Nat) {l l' : List α}
    (h : ∀ n, l.filter (key · == n) = l'.filter (key · == n)) : l.Perm l' := by
  classical
  rw [List.perm_iff_count]
  intro a
  have hcount := congrArg (List.count a) (h (key a))
  rwa [List.count_filter (by simp), List.count_filter (by simp)] at hcount

namespace Metrics

variable {moves moves' : List Move}

theorem value_perm (h : moves.Perm moves') (sample : Sample) :
    value moves sample = value moves' sample := by
  induction h with
  | nil => rfl
  | cons move _ ih => simp only [value, ih]
  | swap => simp only [value, Int.add_left_comm]
  | trans _ _ ih ih' => exact ih.trans ih'

/-- What comes to stand in the registry does not depend on the order of the moves. -/
theorem Registry.record_perm (registry : Registry) (h : moves.Perm moves') :
    registry.record moves = registry.record moves' := by
  apply Registry.ext
  · funext sample
    rw [record_value, record_value, value_perm h]
  · funext sample
    rw [record_moved, record_moved]
    exact congrArg _ h.any_eq

/-- What is published does not depend on it either. -/
theorem lines_perm (h : moves.Perm moves') : lines moves = lines moves' :=
  congrArg Registry.lines (Registry.record_perm .empty h)

end Metrics

namespace Site

variable {W T C N : Type}

/-! ## One router among others -/

/-- The turns of a run, each with its place and its report. -/
def record (site : Site W T C) (turns : List (Nat × Turn W T C N)) :
    List ((Nat × Turn W T C N) × Report T C N) := turns.zip (site.run turns).2

theorem record_cons (site : Site W T C) (n : Nat) (t : Turn W T C N)
    (turns : List (Nat × Turn W T C N)) :
    site.record ((n, t) :: turns) =
      ((n, t), (site.step n t).2) :: (site.step n t).1.record turns := rfl

theorem reports_of_record (site : Site W T C) (turns : List (Nat × Turn W T C N)) :
    (site.record turns).map (·.2) = (site.run turns).2 := by
  induction turns generalizing site with
  | nil => rfl
  | cons turn turns ih =>
    obtain ⟨n, t⟩ := turn
    rw [record_cons, List.map_cons, ih]
    rfl

/-- A place is left by a run as its own turns leave it, and these come to what they would come to
alone. -/
theorem run_at {a b : Site W T C} {n : Nat} (h : a n = b n) (turns : List (Nat × Turn W T C N)) :
    (a.run turns).1 n = (b.run (turns.filter (·.1 == n))).1 n ∧
      (a.record turns).filter (·.1.1 == n) = b.record (turns.filter (·.1 == n)) := by
  induction turns generalizing a b with
  | nil => exact ⟨h, rfl⟩
  | cons turn turns ih =>
    obtain ⟨m, t⟩ := turn
    by_cases hm : m = n
    · subst hm
      obtain ⟨hplace, hreport⟩ := step_congr h t
      obtain ⟨hlast, hrecord⟩ := ih hplace
      simp only [record_cons, List.filter_cons, beq_self_eq_true, if_true]
      exact ⟨hlast, by rw [hreport, hrecord]⟩
    · have hskip : (m == n) = false := beq_eq_false_iff_ne.mpr hm
      have hplace : (a.step m t).1 n = b n := (step_elsewhere a (Ne.symm hm) t).trans h
      simp only [record_cons, List.filter_cons, hskip, Bool.false_eq_true, if_false]
      exact ih hplace

end Site

/-! ## The registry -/

namespace MeteredSite

open Site (moved)

variable {W T C N : Type}

/-- A turn comes to what it comes to without the registry, whatever stands there, and its moves are
added to that. -/
theorem step_adds (metered : MeteredSite W T C) (n : Nat) (t : Site.Turn W T C N) :
    metered.step n t =
      (⟨(metered.site.step n t).1,
          metered.registry.record (metered.site.step n t).2.trace.moves⟩,
        (metered.site.step n t).2) := rfl

/-- So does a run: the routers go their way, and the registry takes what they move. -/
theorem run_adds (metered : MeteredSite W T C) (turns : List (Nat × Site.Turn W T C N)) :
    metered.run turns =
      (⟨(metered.site.run turns).1, metered.registry.record (moved (metered.site.run turns).2)⟩,
        (metered.site.run turns).2) := by
  induction turns generalizing metered with
  | nil => rfl
  | cons turn turns ih =>
    obtain ⟨n, t⟩ := turn
    simp only [run, step_adds, ih, Site.run, moved, List.flatMap_cons,
      Metrics.Registry.record_append]

end MeteredSite

/-! ## The law -/

namespace Site

variable {W T C N : Type}

/-- Routers are isolated. What one of them does among others is what it does alone. So take two runs
from the same routers, with turns that may come in any order but at each place in the same: each
turn gives back the same in both, makes the same calls, writes the same lines, moves the metrics in
the same way and leaves the same in the cache of its router; in the end all routers are the same,
and so are all metrics and the text in which they are published. The registry that all of them move
may hold anything before: it changes nothing of this, and to each of its numbers the run adds what
its turns moved. -/
theorem routers_are_isolated (site : Site W T C) {turns turns' : List (Nat × Turn W T C N)}
    (h : ∀ n, turns.filter (·.1 == n) = turns'.filter (·.1 == n)) :
    (∀ n, (site.record turns).filter (·.1.1 == n) = site.record (turns.filter (·.1 == n))) ∧
    (∀ n, (site.record turns).filter (·.1.1 == n) =
      (site.record turns').filter (·.1.1 == n)) ∧
    (site.run turns).1 = (site.run turns').1 ∧
    (∀ sample, Metrics.value (moved (site.run turns).2) sample =
      Metrics.value (moved (site.run turns').2) sample) ∧
    Metrics.lines (moved (site.run turns).2) = Metrics.lines (moved (site.run turns').2) ∧
    ∀ registry : Metrics.Registry,
      let o := MeteredSite.run ⟨site, registry⟩ turns
      let o' := MeteredSite.run ⟨site, registry⟩ turns'
      o.1 = o'.1 ∧ o.2 = (site.run turns).2 ∧ o'.2 = (site.run turns').2 ∧
      ∀ sample, o.1.registry.value sample =
        registry.value sample + Metrics.value (moved (site.run turns).2) sample := by
  have hrecords (n : Nat) : (site.record turns).filter (·.1.1 == n) =
      (site.record turns').filter (·.1.1 == n) := by
    rw [(run_at rfl turns).2, (run_at rfl turns').2, h]
  have hmoves : (moved (site.run turns).2).Perm (moved (site.run turns').2) := by
    rw [← reports_of_record, ← reports_of_record]
    exact ((perm_of_filter_key (·.1.1) hrecords).map _).flatMap_right _
  have hsite : (site.run turns).1 = (site.run turns').1 := by
    funext n
    rw [(run_at rfl turns).1, (run_at rfl turns').1, h]
  refine ⟨fun n => (run_at rfl turns).2, hrecords, hsite, Metrics.value_perm hmoves,
    Metrics.lines_perm hmoves, ?_⟩
  intro registry o o'
  have ho : o = _ := MeteredSite.run_adds ⟨site, registry⟩ turns
  have ho' : o' = _ := MeteredSite.run_adds ⟨site, registry⟩ turns'
  rw [ho, ho', hsite, registry.record_perm hmoves]
  refine ⟨rfl, rfl, rfl, fun sample => ?_⟩
  rw [Metrics.Registry.record_value, Metrics.value_perm hmoves]

/-- Two routers hold a handle each at one address; one is told that the node is dead, and the other
is dropped. Others have moved the registry before. -/
theorem either_goes_first :
    let cluster := Cluster.start "a" "svc" [("k", "b")]
    let found : Turn Cluster Wire Handle Empty :=
      .found Cluster.parties ⟨none, true, "info"⟩ cluster 1
    let get : Turn Cluster Wire Handle Empty := .deed (.operate (.get "k" []))
    let send : Turn Cluster Wire Handle Empty := .deed (.send (.changes [.new "b" .faulty]))
    let listen : Turn Cluster Wire Handle Empty := .deed (.listen [.start, .receive])
    let drop : Turn Cluster Wire Handle Empty := .deed .drop
    let turns := [(0, found), (1, found), (0, get), (1, get), (0, send), (0, listen), (1, drop)]
    let turns' := [(1, found), (1, get), (1, drop), (0, found), (0, get), (0, send), (0, listen)]
    let site : Site Cluster Wire Handle := empty
    let registry := Metrics.Registry.empty.record [Sample.up .misses]
    (site.record turns).filter (·.1.1 == 0) = (site.record turns').filter (·.1.1 == 0) ∧
    moved (site.run turns).2 ≠ moved (site.run turns').2 ∧
    Metrics.value (moved (site.run turns).2) .cachedClients = 0 ∧
    Metrics.lines (moved (site.run turns).2) = Metrics.lines (moved (site.run turns').2) ∧
    (MeteredSite.run ⟨site, registry⟩ turns).1 = (MeteredSite.run ⟨site, registry⟩ turns').1 ∧
    (MeteredSite.run ⟨site, registry⟩ turns).1.registry.value .misses = 3 := by
  intro cluster found get send listen drop turns turns' site registry
  have hplaces : ∀ n, turns.filter (·.1 == n) = turns'.filter (·.1 == n) := by
    rintro (_ | _ | n)
    · rfl
    · rfl
    · rfl
  obtain ⟨-, hrecords, -, -, hlines, hmetered⟩ := routers_are_isolated site hplaces
  obtain ⟨hsame, -, -, hvalue⟩ := hmetered registry
  exact ⟨hrecords 0, by decide +kernel, by decide +kernel, hlines, hsame,
    (hvalue .misses).trans (by decide +kernel)⟩

end Site

end KeyRoute
