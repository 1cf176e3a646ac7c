import ScriptGateway.Proofs.Gateway.Answers
import ScriptGateway.Proofs.Gateway.Requests

/-!
# Results of reads

The engine prints the value of a script and a line feed behind it. A read is answered with what was
printed less all line feeds at its end (`Barrier.handle_returning`). So a value is delivered as it
is exactly when it does not end in a line feed itself, and two values are told apart exactly when
they differ in more than the line feeds at their ends. Main statement: `Barrier.read_delivers_iff`.
-/

set_option autoImplicit false

namespace ScriptGateway

/-! ## Line feeds at the end -/

namespace Text

/-- The second text is the first without the line feeds at its end. -/
structure Cut (v u : String) : Prop where
  last : u.toList.getLast? ≠ some '\n'
  feeds : ∃ n, v.toList = u.toList ++ List.replicate n '\n'

/-- The texts differ in line feeds at their ends at most. -/
def CutAlike (v w : String) : Prop := ∃ u, Cut v u ∧ Cut w u

/-- The text without the line feeds at its end. -/
def cut (v : String) : String := String.ofList (dropEndWhile (· = '\n') v.toList)

variable {u v w : String}

theorem cut_cut (v : String) : Cut v (cut v) := by
  obtain ⟨back, hv, hback⟩ := exists_append_dropEndWhile (· = '\n') v.toList
  refine ⟨fun hlast => ?_, back.length, ?_⟩
  · rw [cut, String.toList_ofList] at hlast
    exact absurd (eq_false_of_getLast?_dropEndWhile hlast) (by decide)
  · have hfeeds : back = List.replicate back.length '\n' :=
      List.eq_replicate_iff.2 ⟨rfl, fun c hc => of_decide_eq_true (hback c hc)⟩
    rw [cut, String.toList_ofList, ← hfeeds]
    exact hv

theorem cut_append_replicate (n : Nat) (h : v.toList = u.toList ++ List.replicate n '\n') :
    cut v = cut u := by
  have hfeeds : ∀ c ∈ List.replicate n '\n', decide (c = '\n') = true :=
    fun c hc => decide_eq_true (List.eq_of_mem_replicate hc)
  rw [cut, h, dropEndWhile_append hfeeds, cut]

theorem cut_eq_self (h : v.toList.getLast? ≠ some '\n') : cut v = v := by
  have hlast : ∀ c, v.toList.getLast? = some c → decide (c = '\n') = false := by
    intro c hc
    refine decide_eq_false ?_
    rintro rfl
    exact h hc
  rw [cut, dropEndWhile_eq_self hlast, String.ofList_toList]

theorem cut_eq_iff : cut v = u ↔ Cut v u := by
  constructor
  · rintro rfl
    exact cut_cut v
  · rintro ⟨hlast, n, hv⟩
    rw [cut_append_replicate n hv, cut_eq_self hlast]

theorem cut_eq_self_iff : cut v = v ↔ v.toList.getLast? ≠ some '\n' :=
  ⟨fun h => (cut_eq_iff.1 h).last, cut_eq_self⟩

theorem cutAlike_iff : CutAlike v w ↔ cut v = cut w := by
  constructor
  · rintro ⟨u, hv, hw⟩
    rw [cut_eq_iff.2 hv, cut_eq_iff.2 hw]
  · exact fun h => ⟨cut v, cut_cut v, h ▸ cut_cut w⟩

end Text

open Text

/-! ## Reads -/

/-- What the engine reports of a script with a value: it prints the value and a line feed. -/
def Script.Run.returning (value stderr : String) : Run := ⟨value ++ "\n", stderr, 0⟩

theorem Script.Run.value_returning (v stderr : String) : (returning v stderr).value = cut v :=
  cut_append_replicate 1 String.toList_append

variable {b : Barrier} {execute : Executor} {path : String} {s : Specifier}
  {params : OrderedMap String String} {v stderr : String}

theorem Barrier.handle_returning (hended : b.phase = .ended none)
    (hs : resolve b.registries.classes path pathStem = .ok s) (hp : s.isProperty = true)
    (hrun : execute s.readScript = .ok (.returning v stderr)) :
    b.handle execute ⟨.get, path, params⟩ =
      some ⟨[s.readScript], .ok ⟨200, .text (cut v)⟩⟩ := by
  have hresponse : Response.ofRun (.ok (.returning v stderr)) = .ok ⟨200, .text (cut v)⟩ := by
    rw [← Script.Run.value_returning v stderr]
    rfl
  rw [handle_eq_ofScript hended, Request.script_get hs hp, Handled.ofScript, hrun, hresponse]

/-- **Which results are delivered unaltered**: a read whose script has a value is answered with that
value less the line feeds at its end. This is the value itself exactly when it does not end in a
line feed, and two values have the same answer exactly when they differ in such line feeds at
most. -/
theorem Barrier.read_delivers_iff (hended : b.phase = .ended none)
    (hs : resolve b.registries.classes path pathStem = .ok s) (hp : s.isProperty = true)
    (params : OrderedMap String String) :
    (∀ execute v stderr, execute s.readScript = .ok (.returning v stderr) →
      ∃ u, Cut v u ∧ (u = v ↔ v.toList.getLast? ≠ some '\n') ∧
        b.handle execute ⟨.get, path, params⟩ =
          some ⟨[s.readScript], .ok ⟨200, .text u⟩⟩) ∧
    ∀ execute execute' v w stderr stderr', execute s.readScript = .ok (.returning v stderr) →
      execute' s.readScript = .ok (.returning w stderr') →
      (b.handle execute ⟨.get, path, params⟩ = b.handle execute' ⟨.get, path, params⟩ ↔
        CutAlike v w) := by
  refine ⟨fun execute v stderr hrun => ?_, fun execute execute' v w stderr stderr' hv hw => ?_⟩
  · exact ⟨cut v, cut_cut v, cut_eq_self_iff, handle_returning hended hs hp hrun⟩
  · rw [handle_returning hended hs hp hv, handle_returning hended hs hp hw, cutAlike_iff]
    simp

/-- The name of a playlist, over the tables of `shelf`. -/
theorem Barrier.exists_name_of_playlist : ∃ s,
    resolve shelved.registries.classes "/playlists/1/name" pathStem = .ok s ∧
      s.isProperty = true ∧
      s.readScript = "set obj0 to it\nset obj1 to playlist 1 of obj0\nreturn name of obj1" := by
  have hread : ((resolve shelved.registries.classes "/playlists/1/name" pathStem).toOption.bind
      fun s => if s.isProperty then some s.readScript else none) =
      some "set obj0 to it\nset obj1 to playlist 1 of obj0\nreturn name of obj1" := by
    decide +kernel
  obtain ⟨s, hs, hread⟩ := Option.bind_eq_some_iff.1 hread
  obtain ⟨hp, hscript⟩ := Option.ite_none_right_eq_some.1 hread
  exact ⟨s, Outcome.toOption_eq_some.1 hs, hp, Option.some.inj hscript⟩

/-- Line feeds at the beginning and within a name are delivered. -/
theorem Barrier.read_delivers_iff_name_of_playlist :
    ∃ s, shelved.phase = .ended none ∧
      resolve shelved.registries.classes "/playlists/1/name" pathStem = .ok s ∧
      s.isProperty = true ∧
      shelved.handle (fun _ => .ok (.returning "\nRoad\n\ntrip" ""))
        ⟨.get, "/playlists/1/name", .empty⟩ =
          some ⟨[s.readScript], .ok ⟨200, .text "\nRoad\n\ntrip"⟩⟩ := by
  obtain ⟨s, hs, hp, -⟩ := exists_name_of_playlist
  obtain ⟨u, -, hself, hhandle⟩ := (read_delivers_iff shelved_ended hs hp .empty).1
    (fun _ => .ok (.returning "\nRoad\n\ntrip" "")) _ _ rfl
  exact ⟨s, shelved_ended, hs, hp, by rw [hhandle, hself.2 (by decide)]⟩

/-- A name that ends in a line feed is delivered as the name without it. -/
theorem Barrier.last_line_feed_not_delivered :
    "Road trip\n" ≠ "Road trip" ∧ ∃ s,
      resolve shelved.registries.classes "/playlists/1/name" pathStem = .ok s ∧
      s.isProperty = true ∧ ∀ v ∈ ["Road trip\n", "Road trip"],
        shelved.handle (fun _ => .ok (.returning v "")) ⟨.get, "/playlists/1/name", .empty⟩ =
          some ⟨["set obj0 to it\nset obj1 to playlist 1 of obj0\nreturn name of obj1"],
            .ok ⟨200, .text "Road trip"⟩⟩ := by
  obtain ⟨s, hs, hp, hscript⟩ := exists_name_of_playlist
  have hcut : ∀ v ∈ ["Road trip\n", "Road trip"], Text.cut v = "Road trip" := by decide
  refine ⟨by decide, s, hs, hp, fun v hv => ?_⟩
  rw [handle_returning shelved_ended hs hp rfl, hscript, hcut v hv]

end ScriptGateway
