import ApertureC.Protocol
import ApertureC.RectangleCover

/-!
# The tracking buffer (`aperturec-server/src/task/frame_sync.rs`)

* `TrackingBuffer.new`, `resize`, `update`, `markStale`, `cutFrame` — the operations of the
  server's per-display buffer.  `none` is a panic (a slice outside its array, a failed cast or
  assertion); the damage watch is a counter of the notifications sent.
* `TrackingBuffer.WF` — the shape of `data` is the display's, and the damaged boxes are non-empty,
  disjoint and inside it.

Principal results: `update_spec` — an update never panics, makes `data` equal to the frame buffer
on the intersection and leaves it alone elsewhere, and every pixel it changes is damaged
afterwards; `cutFrame_spec` — a cut never panics, returns a frame exactly when something is
damaged, and its buffers show `data` on exactly the damaged pixels.
-/

set_option autoImplicit false

namespace ApertureC

open Geometry

structure SubframeBuffer (α : Type) where
  origin : Point
  pixels : Grid α

def SubframeBuffer.area {α : Type} (b : SubframeBuffer α) : Rect := ⟨b.origin, b.pixels.size⟩

structure Frame where
  id : Nat
  displayConfig : Nat
  display : Nat
  buffers : List (SubframeBuffer Pixel24)

/-- `Damage`; `partialAreas` is `Damage::Partial`. -/
inductive Damage where
  | none
  | partialAreas (areas : BoxSet)
  | full
  deriving DecidableEq, Repr

structure TrackingBuffer where
  display : Display
  displayId : Nat
  displayConfig : Nat
  data : Grid Pixel32
  damage : Damage
  currFrameId : Nat
  /-- Notifications sent on `damage_watch_tx`. -/
  damageWatch : Nat

namespace TrackingBuffer

def new (displayId : Nat) (display : Display) (displayConfig : Nat) : TrackingBuffer where
  display := display
  displayId := displayId
  displayConfig := displayConfig
  data := Grid.fromElem display.area.size default
  damage := .full
  currFrameId := 0
  damageWatch := 0

def resize (tb : TrackingBuffer) (display : Display) (displayConfig : Nat) : TrackingBuffer :=
  { tb with
    currFrameId := 0
    displayConfig := displayConfig
    display := display
    data := Grid.fromElem display.area.size default
    damage := .full
    damageWatch := tb.damageWatch + 1 }

def markStale (tb : TrackingBuffer) (stale : Box2D) : TrackingBuffer :=
  { tb with
    damage :=
      if stale = tb.display.area.toBox2D then .full
      else
        match tb.damage with
        | .none => .partialAreas (BoxSet.withInitialBox stale)
        | .partialAreas areas => .partialAreas (areas.add stale)
        | .full => .full
    damageWatch := tb.damageWatch + 1 }

/-- One box of the cover: copy it from the frame buffer's slice and mark it stale. -/
def applyCover (new : Grid Pixel32) (origin : Point) (tb : TrackingBuffer) (b : Box2D) :
    Option TrackingBuffer := do
  let src ← new.slice b
  let data ← tb.data.assign (b.translate origin) id src
  return { tb with data := data }.markStale (b.translate origin)

def update (cc : ConnectedComponents) (tb : TrackingBuffer) (fb : SubframeBuffer Pixel32) :
    Option TrackingBuffer :=
  if !tb.display.isEnabled then some tb
  else
    match tb.display.area.intersection fb.area with
    | none => some tb
    | some i => do
      let fbRelativeArea ← i.relativeTo fb.origin
      let tbRelativeArea ← i.relativeTo tb.display.area.origin
      let new ← fb.pixels.slice fbRelativeArea.toBox2D
      match tb.damage with
      | .full =>
        let data ← tb.data.assign tbRelativeArea.toBox2D id new
        return { tb with data := data }
      | _ =>
        let curr ← tb.data.slice tbRelativeArea.toBox2D
        let coverAreas ← diffRectangleCover cc curr new
        coverAreas.inner.foldlM (applyCover new tbRelativeArea.origin) tb

def clear (tb : TrackingBuffer) : TrackingBuffer := { tb with damage := .none }

/-- The contents of a region in 24-bit pixels (`Pixel24MapShared::build_uninit`). -/
def cutBuffer (tb : TrackingBuffer) (b : Box2D) : Option (SubframeBuffer Pixel24) := do
  let s ← tb.data.slice b
  return ⟨b.min, ⟨s.height, s.width, fun y x => Pixel24.assignElem (s.get y x)⟩⟩

def cutFrame (tb : TrackingBuffer) : Option (Option Frame × TrackingBuffer) := do
  let buffers? ← match tb.damage with
    | .none => some none
    | .partialAreas boxes => (boxes.inner.mapM tb.cutBuffer).map some
    | .full =>
      -- the whole of `data` is assigned to an array of the display's size
      if tb.data.size = tb.display.area.size then
        (tb.cutBuffer (Box2D.fromSize tb.display.area.size)).map fun b => some [b]
      else none
  match buffers? with
  | none => return (none, tb)
  | some buffers =>
    return (some ⟨tb.currFrameId, tb.displayConfig, tb.displayId, buffers⟩,
      { tb.clear with currFrameId := tb.currFrameId + 1 })

/-! ## Well-formedness -/

/-- `p` is a pixel of the display. -/
def InDisplay (tb : TrackingBuffer) (p : Point) : Prop :=
  p.x < tb.display.area.size.width ∧ p.y < tb.display.area.size.height

/-- `p` is damaged. -/
def Damaged (tb : TrackingBuffer) (p : Point) : Prop :=
  match tb.damage with
  | .none => False
  | .partialAreas areas => areas.Covers p
  | .full => True

structure WF (tb : TrackingBuffer) : Prop where
  size_eq : tb.data.size = tb.display.area.size
  areas : ∀ s, tb.damage = .partialAreas s →
    s.Nonoverlapping ∧ ∀ r ∈ s.inner, r.isEmpty = false ∧ tb.data.Fits r

theorem WF.width_eq {tb : TrackingBuffer} (h : tb.WF) :
    tb.data.width = tb.display.area.size.width := congrArg Size.width h.size_eq

theorem WF.height_eq {tb : TrackingBuffer} (h : tb.WF) :
    tb.data.height = tb.display.area.size.height := congrArg Size.height h.size_eq

theorem new_wf (displayId : Nat) (display : Display) (displayConfig : Nat) :
    (new displayId display displayConfig).WF :=
  ⟨rfl, fun s h => by simp [new] at h⟩

theorem resize_wf (tb : TrackingBuffer) (display : Display) (displayConfig : Nat) :
    (tb.resize display displayConfig).WF :=
  ⟨rfl, fun s h => by simp [resize] at h⟩

theorem damaged_full {tb : TrackingBuffer} (h : tb.damage = .full) (p : Point) : tb.Damaged p := by
  simp [Damaged, h]

theorem mem_of_fits {α : Type} {g : Grid α} {r : Box2D} (h : g.Fits r) {p : Point} (hp : p ∈ r) :
    p.x < g.width ∧ p.y < g.height := by
  rw [Box2D.mem_def] at hp
  simp only [Grid.Fits] at h
  omega

/-- Marking a non-empty region inside the buffer keeps it well formed and damages the region. -/
theorem markStale_spec {tb : TrackingBuffer} (h : tb.WF) {stale : Box2D}
    (hne : stale.isEmpty = false) (hfit : tb.data.Fits stale) :
    (tb.markStale stale).WF ∧ ∀ p, tb.Damaged p ∨ p ∈ stale → (tb.markStale stale).Damaged p := by
  by_cases heq : stale = tb.display.area.toBox2D
  · have hfull : (tb.markStale stale).damage = .full := by simp [markStale, heq]
    refine ⟨⟨h.size_eq, fun s hs => ?_⟩, fun p _ => damaged_full hfull p⟩
    rw [hfull] at hs
    cases hs
  · cases hd : tb.damage with
    | none =>
      have hdam : (tb.markStale stale).damage = .partialAreas (BoxSet.withInitialBox stale) := by
        simp [markStale, heq, hd]
      refine ⟨⟨h.size_eq, fun s hs => ?_⟩, fun p hp => ?_⟩
      · rw [hdam] at hs
        cases hs
        refine ⟨List.pairwise_singleton _ _, fun r hr => ?_⟩
        rw [List.mem_singleton.mp hr]
        exact ⟨hne, hfit⟩
      · rcases hp with hp | hp
        · simp [Damaged, hd] at hp
        · simpa [Damaged, hdam, BoxSet.Covers, BoxSet.withInitialBox] using hp
    | full =>
      have hfull : (tb.markStale stale).damage = .full := by simp [markStale, hd]
      refine ⟨⟨h.size_eq, fun s hs => ?_⟩, fun p _ => damaged_full hfull p⟩
      rw [hfull] at hs
      cases hs
    | partialAreas areas =>
      have hdam : (tb.markStale stale).damage = .partialAreas (areas.add stale) := by
        simp [markStale, heq, hd]
      obtain ⟨hnon, hin⟩ := h.areas areas hd
      obtain ⟨hnon', hcov⟩ := BoxSet.add_spec hnon stale
      refine ⟨⟨h.size_eq, fun s hs => ?_⟩, fun p hp => ?_⟩
      · rw [hdam] at hs
        cases hs
        refine ⟨hnon', fun r hr => ?_⟩
        have hrne := BoxSet.add_nonempty (fun r hr => (hin r hr).1) hne r hr
        refine ⟨hrne, fits_of_points hrne fun p hp => ?_⟩
        rcases (hcov p).mp ⟨r, hr, hp⟩ with ⟨b, hb, hpb⟩ | hps
        · exact mem_of_fits (hin b hb).2 hpb
        · exact mem_of_fits hfit hps
      · have : (areas.add stale).Covers p := by
          refine (hcov p).mpr ?_
          simpa [Damaged, hd] using hp
        simpa [Damaged, hdam] using this

/-! ## Updates -/

/-- Everything but the pixels and the damage is as before. -/
def SameIds (tb tb' : TrackingBuffer) : Prop :=
  tb'.display = tb.display ∧ tb'.displayId = tb.displayId ∧ tb'.displayConfig = tb.displayConfig ∧
    tb'.currFrameId = tb.currFrameId

theorem applyCover_spec {tb : TrackingBuffer} (h : tb.WF) {new : Grid Pixel32} {o : Point}
    (hx : o.x + new.width ≤ tb.data.width) (hy : o.y + new.height ≤ tb.data.height) {b : Box2D}
    (hne : b.isEmpty = false) (hfit : new.Fits b) :
    ∃ tb', applyCover new o tb b = some tb' ∧ tb'.WF ∧ SameIds tb tb' ∧
      (∀ p, tb.Damaged p ∨ p ∈ b.translate o → tb'.Damaged p) ∧
      ∀ p, tb'.data.get p.y p.x =
        if p ∈ b.translate o then new.get (p.y - o.y) (p.x - o.x) else tb.data.get p.y p.x := by
  have hfit' : tb.data.Fits (b.translate o) := by
    simp only [Grid.Fits, Box2D.translate] at hfit ⊢
    omega
  have hne' : (b.translate o).isEmpty = false := by
    rw [Box2D.isEmpty_eq_false_iff] at hne ⊢
    simp only [Box2D.translate]
    omega
  have hh : b.height = (b.translate o).height := by
    simp only [Box2D.height, Box2D.translate]; omega
  have hw : b.width = (b.translate o).width := by
    simp only [Box2D.width, Box2D.translate]; omega
  let src : Grid Pixel32 := ⟨b.height, b.width, fun y x => new.get (b.min.y + y) (b.min.x + x)⟩
  have hsrc : new.slice b = some src := Grid.slice_eq_some hfit
  have hsh : src.height = (b.translate o).height := hh
  have hsw : src.width = (b.translate o).width := hw
  obtain ⟨g, hg, hgh, hgw, hget⟩ := Grid.assign_spec hfit' hsh hsw id
  have hwf : TrackingBuffer.WF { tb with data := g } := by
    refine ⟨?_, fun s hs => ⟨(h.areas s hs).1, fun r hr => ?_⟩⟩
    · rw [← h.size_eq]
      simp only [Grid.size, hgh, hgw]
    · obtain ⟨h₁, h₂⟩ := (h.areas s hs).2 r hr
      exact ⟨h₁, h₂.congr hgh hgw⟩
  obtain ⟨hwf', hdam⟩ := markStale_spec hwf hne' (hfit'.congr hgh hgw)
  refine ⟨_, ?_, hwf', ⟨rfl, rfl, rfl, rfl⟩, hdam, fun p => ?_⟩
  · rw [applyCover, hsrc, Option.bind_eq_bind, Option.bind_some, hg]
    rfl
  · simp only [markStale, hget, src]
    by_cases hp : p ∈ b.translate o
    · rw [if_pos hp, if_pos hp]
      rw [Box2D.mem_def] at hp
      simp only [Box2D.translate] at hp ⊢
      rw [show b.min.y + (p.y - (b.min.y + o.y)) = p.y - o.y by omega,
        show b.min.x + (p.x - (b.min.x + o.x)) = p.x - o.x by omega]
      rfl
    · rw [if_neg hp, if_neg hp]

/-- A whole cover: every box is copied and damaged, nothing else changes. -/
theorem foldlM_applyCover_spec {new : Grid Pixel32} {o : Point} :
    ∀ (bs : List Box2D) {tb : TrackingBuffer}, tb.WF → o.x + new.width ≤ tb.data.width →
      o.y + new.height ≤ tb.data.height → (∀ b ∈ bs, b.isEmpty = false ∧ new.Fits b) →
      ∃ tb', bs.foldlM (applyCover new o) tb = some tb' ∧ tb'.WF ∧ SameIds tb tb' ∧
        (∀ p, tb.Damaged p ∨ (∃ b ∈ bs, p ∈ b.translate o) → tb'.Damaged p) ∧
        (∀ p, (∃ b ∈ bs, p ∈ b.translate o) → tb'.data.get p.y p.x = new.get (p.y - o.y) (p.x - o.x)) ∧
        ∀ p, (¬ ∃ b ∈ bs, p ∈ b.translate o) → tb'.data.get p.y p.x = tb.data.get p.y p.x
  | [], tb, h, _, _, _ =>
    ⟨tb, rfl, h, ⟨rfl, rfl, rfl, rfl⟩, fun p hp => by simpa using hp, fun p hp => by simp at hp,
      fun p _ => rfl⟩
  | b :: bs, tb, h, hx, hy, hbs => by
    obtain ⟨hne, hfit⟩ := hbs b List.mem_cons_self
    obtain ⟨tb₁, h₁, hwf₁, hids₁, hdam₁, hdata₁⟩ := applyCover_spec h hx hy hne hfit
    have hw₁ : tb₁.data.width = tb.data.width := by rw [hwf₁.width_eq, h.width_eq, hids₁.1]
    have hh₁ : tb₁.data.height = tb.data.height := by rw [hwf₁.height_eq, h.height_eq, hids₁.1]
    obtain ⟨tb₂, h₂, hwf₂, hids₂, hdam₂, hin₂, hout₂⟩ := foldlM_applyCover_spec bs hwf₁
      (by rw [hw₁]; exact hx) (by rw [hh₁]; exact hy) fun b' hb' => hbs b' (List.mem_cons_of_mem _ hb')
    refine ⟨tb₂, ?_, hwf₂, ?_, ?_, ?_, ?_⟩
    · rw [List.foldlM_cons, h₁]; exact h₂
    · obtain ⟨a₁, a₂, a₃, a₄⟩ := hids₁
      obtain ⟨c₁, c₂, c₃, c₄⟩ := hids₂
      exact ⟨c₁.trans a₁, c₂.trans a₂, c₃.trans a₃, c₄.trans a₄⟩
    · rintro p (hp | ⟨b', hb', hp⟩)
      · exact hdam₂ p (Or.inl (hdam₁ p (Or.inl hp)))
      · rcases List.mem_cons.mp hb' with rfl | hb'
        · exact hdam₂ p (Or.inl (hdam₁ p (Or.inr hp)))
        · exact hdam₂ p (Or.inr ⟨b', hb', hp⟩)
    · rintro p ⟨b', hb', hp⟩
      by_cases hrest : ∃ b ∈ bs, p ∈ b.translate o
      · exact hin₂ p hrest
      · rw [hout₂ p hrest, hdata₁ p]
        rcases List.mem_cons.mp hb' with rfl | hb'
        · rw [if_pos hp]
        · exact absurd ⟨b', hb', hp⟩ hrest
    · intro p hp
      have hrest : ¬ ∃ b ∈ bs, p ∈ b.translate o := fun ⟨b', hb', hp'⟩ =>
        hp ⟨b', List.mem_cons_of_mem _ hb', hp'⟩
      rw [hout₂ p hrest, hdata₁ p, if_neg fun hp' => hp ⟨b, List.mem_cons_self, hp'⟩]

/-- The pixel that the frame buffer holds for pixel `p` of the display, if it covers it. -/
def incoming (tb : TrackingBuffer) (fb : SubframeBuffer Pixel32) (p : Point) : Option Pixel32 :=
  let q : Point := ⟨tb.display.area.origin.x + p.x, tb.display.area.origin.y + p.y⟩
  if tb.display.isEnabled ∧ q ∈ fb.area.toBox2D then
    some (fb.pixels.get (q.y - fb.origin.y) (q.x - fb.origin.x))
  else none

/-- The part of the display that the frame buffer covers, when there is one. -/
theorem incoming_eq {tb : TrackingBuffer} {fb : SubframeBuffer Pixel32} {i : Rect}
    (hen : tb.display.isEnabled = true)
    (hi : ∀ q, q ∈ i.toBox2D ↔ q ∈ tb.display.area.toBox2D ∧ q ∈ fb.area.toBox2D) {p : Point}
    (hp : tb.InDisplay p) :
    tb.incoming fb p =
      if (⟨tb.display.area.origin.x + p.x, tb.display.area.origin.y + p.y⟩ : Point) ∈ i.toBox2D then
        some (fb.pixels.get (tb.display.area.origin.y + p.y - fb.origin.y)
          (tb.display.area.origin.x + p.x - fb.origin.x))
      else none := by
  have hin : (⟨tb.display.area.origin.x + p.x, tb.display.area.origin.y + p.y⟩ : Point) ∈
      tb.display.area.toBox2D := by
    obtain ⟨h₁, h₂⟩ := hp
    rw [Rect.mem_toBox2D]
    simp only
    omega
  simp only [incoming, hen, true_and, hi, hin]

/-- The whole region is assigned. -/
theorem assign_wf {tb : TrackingBuffer} (h : tb.WF) {new : Grid Pixel32} {r : Rect}
    (hfit : tb.data.Fits r.toBox2D) (hsize : new.size = r.size) :
    ∃ data, tb.data.assign r.toBox2D id new = some data ∧
      TrackingBuffer.WF { tb with data := data } ∧
      ∀ p : Point, data.get p.y p.x =
        if p ∈ r.toBox2D then new.get (p.y - r.origin.y) (p.x - r.origin.x)
        else tb.data.get p.y p.x := by
  have hh : new.height = r.toBox2D.height := by
    rw [show new.height = r.size.height from congrArg Size.height hsize]
    simp only [Box2D.height, Rect.toBox2D]
    omega
  have hw : new.width = r.toBox2D.width := by
    rw [show new.width = r.size.width from congrArg Size.width hsize]
    simp only [Box2D.width, Rect.toBox2D]
    omega
  obtain ⟨data, hdata, hgh, hgw, hget⟩ := Grid.assign_spec hfit hh hw id
  refine ⟨data, hdata, ⟨?_, fun s hs => ⟨(h.areas s hs).1, fun r hr => ?_⟩⟩, fun p => hget p.y p.x⟩
  · rw [← h.size_eq]
    simp only [Grid.size, hgh, hgw]
  · obtain ⟨h₁, h₂⟩ := (h.areas s hs).2 r hr
    exact ⟨h₁, h₂.congr hgh hgw⟩

/-- The region is compared with `data`, and the cover of the difference is assigned and marked. -/
theorem applyDiff_spec (cc : ConnectedComponents) {tb : TrackingBuffer} (h : tb.WF)
    {new : Grid Pixel32} {r : Rect} (hfit : tb.data.Fits r.toBox2D) (hsize : new.size = r.size)
    (hw : 0 < r.size.width) (hh : 0 < r.size.height) :
    ∃ curr cover tb', tb.data.slice r.toBox2D = some curr ∧
      diffRectangleCover cc curr new = some cover ∧
      cover.inner.foldlM (applyCover new r.origin) tb = some tb' ∧ tb'.WF ∧ SameIds tb tb' ∧
      (∀ p : Point, tb'.data.get p.y p.x =
        if p ∈ r.toBox2D then new.get (p.y - r.origin.y) (p.x - r.origin.x)
        else tb.data.get p.y p.x) ∧
      ∀ p, ¬ tb'.Damaged p → ¬ tb.Damaged p ∧ tb'.data.get p.y p.x = tb.data.get p.y p.x := by
  have hnw : new.width = r.size.width := congrArg Size.width hsize
  have hnh : new.height = r.size.height := congrArg Size.height hsize
  let curr : Grid Pixel32 := ⟨r.toBox2D.height, r.toBox2D.width,
    fun y x => tb.data.get (r.origin.y + y) (r.origin.x + x)⟩
  have hcurr : tb.data.slice r.toBox2D = some curr := Grid.slice_eq_some hfit
  have hch : curr.height = new.height := by
    simp only [curr, Box2D.height, Rect.toBox2D]
    omega
  have hcw : curr.width = new.width := by
    simp only [curr, Box2D.width, Rect.toBox2D]
    omega
  obtain ⟨cover, hcover, -, hin, hdiff, -⟩ :=
    diffRectangleCover_spec cc hch hcw (by omega) (by omega)
  have hx : r.origin.x + new.width ≤ tb.data.width := by
    simp only [Grid.Fits, Rect.toBox2D] at hfit
    omega
  have hy : r.origin.y + new.height ≤ tb.data.height := by
    simp only [Grid.Fits, Rect.toBox2D] at hfit
    omega
  have hfits : ∀ b ∈ cover.inner, b.isEmpty = false ∧ new.Fits b := fun b hb =>
    ⟨(hin b hb).1, (hin b hb).2.congr hch.symm hcw.symm⟩
  obtain ⟨tb', htb', hwf', hids, hdam, hcov, hout⟩ := foldlM_applyCover_spec _ h hx hy hfits
  -- a pixel of the region that the cover misses has the value it is given
  have hmiss : ∀ p ∈ r.toBox2D, (¬ ∃ b ∈ cover.inner, p ∈ b.translate r.origin) →
      tb.data.get p.y p.x = new.get (p.y - r.origin.y) (p.x - r.origin.x) := by
    intro p hp hno
    rw [Rect.mem_toBox2D] at hp
    by_contra hne
    have hne' : curr.get (p.y - r.origin.y) (p.x - r.origin.x) ≠
        new.get (p.y - r.origin.y) (p.x - r.origin.x) := by
      simp only [curr]
      rw [show r.origin.y + (p.y - r.origin.y) = p.y by omega,
        show r.origin.x + (p.x - r.origin.x) = p.x by omega]
      exact hne
    obtain ⟨b, hb, hpb⟩ := hdiff _ _ (by omega) (by omega) hne'
    exact hno ⟨b, hb, Box2D.mem_translate.mpr ⟨hp.1.1, hp.2.1, hpb⟩⟩
  have hsub : ∀ p, (∃ b ∈ cover.inner, p ∈ b.translate r.origin) → p ∈ r.toBox2D := by
    rintro p ⟨b, hb, hp⟩
    rw [Box2D.mem_translate] at hp
    have := mem_of_fits (hfits b hb).2 hp.2.2
    rw [Rect.mem_toBox2D]
    simp only at this
    omega
  refine ⟨curr, cover, tb', hcurr, hcover, htb', hwf', hids, fun p => ?_, fun p hp => ⟨?_, ?_⟩⟩
  · by_cases hc : ∃ b ∈ cover.inner, p ∈ b.translate r.origin
    · rw [if_pos (hsub p hc)]
      exact hcov p hc
    · rw [hout p hc]
      split
      · rename_i hpr
        exact hmiss p hpr hc
      · rfl
  · exact fun hd => hp (hdam p (Or.inl hd))
  · exact hout p fun hc => hp (hdam p (Or.inr hc))

/-- The part of the frame buffer that the display shows, and the region of `data` it goes to. -/
theorem intersection_regions {tb : TrackingBuffer} (h : tb.WF) {fb : SubframeBuffer Pixel32}
    {i : Rect} (hi : tb.display.area.intersection fb.area = some i) :
    ∃ fbr tbr new, i.relativeTo fb.origin = some fbr ∧
      i.relativeTo tb.display.area.origin = some tbr ∧ fb.pixels.slice fbr.toBox2D = some new ∧
      new.size = tbr.size ∧ tb.data.Fits tbr.toBox2D ∧ 0 < tbr.size.width ∧ 0 < tbr.size.height ∧
      (∀ p : Point, p ∈ tbr.toBox2D ↔ (⟨tb.display.area.origin.x + p.x,
        tb.display.area.origin.y + p.y⟩ : Point) ∈ i.toBox2D) ∧
      ∀ p : Point, p ∈ tbr.toBox2D → new.get (p.y - tbr.origin.y) (p.x - tbr.origin.x) =
        fb.pixels.get (tb.display.area.origin.y + p.y - fb.origin.y)
          (tb.display.area.origin.x + p.x - fb.origin.x) := by
  obtain ⟨⟨hax, hax'⟩, ⟨hay, hay'⟩, ⟨hbx, hbx'⟩, ⟨hby, hby'⟩, hw, hh⟩ := Rect.intersection_eq_some hi
  simp only [SubframeBuffer.area, Grid.size] at hbx hbx' hby hby'
  let fbr : Rect := ⟨⟨i.origin.x - fb.origin.x, i.origin.y - fb.origin.y⟩, i.size⟩
  let tbr : Rect := ⟨⟨i.origin.x - tb.display.area.origin.x,
    i.origin.y - tb.display.area.origin.y⟩, i.size⟩
  let new : Grid Pixel32 := ⟨fbr.toBox2D.height, fbr.toBox2D.width,
    fun y x => fb.pixels.get (fbr.origin.y + y) (fbr.origin.x + x)⟩
  refine ⟨fbr, tbr, new, if_pos ⟨hbx, hby⟩, if_pos ⟨hax, hay⟩, Grid.slice_eq_some ?_, ?_, ?_, hw, hh,
    fun p => ?_, fun p hp => ?_⟩
  · simp only [Grid.Fits, Rect.toBox2D, fbr]
    omega
  · simp only [new, tbr, fbr, Grid.size, Box2D.height, Box2D.width, Rect.toBox2D]
    simp
  · rw [Grid.Fits, h.width_eq, h.height_eq]
    simp only [Rect.toBox2D, tbr]
    omega
  · simp only [Rect.mem_toBox2D, tbr]
    omega
  · rw [Rect.mem_toBox2D] at hp
    simp only [new, fbr, tbr] at hp ⊢
    congr 1 <;> omega

/-- **An update never panics; `data` becomes the frame buffer's contents where it covers the
display, and every pixel that is not damaged afterwards is undamaged before and unchanged.** -/
theorem update_spec (cc : ConnectedComponents) {tb : TrackingBuffer} (h : tb.WF)
    (fb : SubframeBuffer Pixel32) :
    ∃ tb', tb.update cc fb = some tb' ∧ tb'.WF ∧ SameIds tb tb' ∧
      (∀ p, tb.InDisplay p → tb'.data.get p.y p.x = (tb.incoming fb p).getD (tb.data.get p.y p.x)) ∧
      ∀ p, ¬ tb'.Damaged p → ¬ tb.Damaged p ∧ tb'.data.get p.y p.x = tb.data.get p.y p.x := by
  have hsame : SameIds tb tb := ⟨rfl, rfl, rfl, rfl⟩
  unfold update
  cases hen : tb.display.isEnabled with
  | false =>
    refine ⟨tb, rfl, h, hsame, fun p _ => ?_, fun p hd => ⟨hd, rfl⟩⟩
    simp [incoming, hen]
  | true =>
    rcases Rect.intersection_spec tb.display.area fb.area with ⟨hnone, hdis⟩ | ⟨i, hi, hmem⟩
    · rw [hnone]
      refine ⟨tb, rfl, h, hsame, fun p hp => ?_, fun p hd => ⟨hd, rfl⟩⟩
      have hno : (⟨tb.display.area.origin.x + p.x, tb.display.area.origin.y + p.y⟩ : Point) ∉
          fb.area.toBox2D := by
        refine hdis _ ?_
        obtain ⟨h₁, h₂⟩ := hp
        rw [Rect.mem_toBox2D]
        simp only
        omega
      simp [incoming, hno]
    · rw [hi]
      obtain ⟨fbr, tbr, new, hfbr, htbr, hnew, hsize, hfit, hw, hh, hiff, hshown⟩ :=
        intersection_regions h hi
      have hdata : ∀ (data : Grid Pixel32), (∀ p : Point, data.get p.y p.x =
          if p ∈ tbr.toBox2D then new.get (p.y - tbr.origin.y) (p.x - tbr.origin.x)
          else tb.data.get p.y p.x) → ∀ p, tb.InDisplay p →
          data.get p.y p.x = (tb.incoming fb p).getD (tb.data.get p.y p.x) := by
        intro data hd p hp
        rw [hd p, incoming_eq hen hmem hp]
        by_cases hpi : p ∈ tbr.toBox2D
        · rw [if_pos hpi, if_pos ((hiff p).mp hpi), hshown p hpi]
          rfl
        · rw [if_neg hpi, if_neg fun hc => hpi ((hiff p).mpr hc)]
          rfl
      simp only [hfbr, htbr, hnew, Bool.not_true, Bool.false_eq_true, if_false, Option.bind_eq_bind,
        Option.bind_some, Option.pure_def]
      obtain ⟨curr, cover, tb', hcurr, hcover, htb', hwf', hids', hget', hdam'⟩ :=
        applyDiff_spec cc h hfit hsize hw hh
      have hdiff : ((tb.data.slice tbr.toBox2D).bind fun curr =>
          (diffRectangleCover cc curr new).bind fun coverAreas =>
            coverAreas.inner.foldlM (applyCover new tbr.origin) tb) = some tb' := by
        rw [hcurr, Option.bind_some, hcover, Option.bind_some, htb']
      cases hdamage : tb.damage with
      | full =>
        obtain ⟨data, hassign, hwf, hget⟩ := assign_wf h hfit hsize
        refine ⟨{ tb with data := data }, ?_, hwf, hsame, hdata data hget, fun p hp => ?_⟩
        · simp only [hassign, Option.bind_some, hdamage]
        · exact absurd (damaged_full hdamage p) hp
      | none => exact ⟨tb', hdiff, hwf', hids', hdata _ hget', hdam'⟩
      | partialAreas areas => exact ⟨tb', hdiff, hwf', hids', hdata _ hget', hdam'⟩

/-! ## Cuts -/

/-- The buffer lies inside `data` and holds its red, green and blue. -/
def Shows (data : Grid Pixel32) (b : SubframeBuffer Pixel24) : Prop :=
  data.Fits b.area.toBox2D ∧
    ∀ y x, b.pixels.get y x = Pixel24.assignElem (data.get (b.origin.y + y) (b.origin.x + x))

theorem cutBuffer_spec {tb : TrackingBuffer} {r : Box2D} (hfit : tb.data.Fits r)
    (hmin : r.min.x ≤ r.max.x ∧ r.min.y ≤ r.max.y) :
    ∃ b, tb.cutBuffer r = some b ∧ Shows tb.data b ∧ b.area.toBox2D = r := by
  let b : SubframeBuffer Pixel24 := ⟨r.min, ⟨r.height, r.width,
    fun y x => Pixel24.assignElem (tb.data.get (r.min.y + y) (r.min.x + x))⟩⟩
  have hb : tb.cutBuffer r = some b := by
    rw [cutBuffer, Grid.slice_eq_some hfit]
    rfl
  have harea : b.area.toBox2D = r := by
    obtain ⟨⟨x₀, y₀⟩, ⟨x₁, y₁⟩⟩ := r
    simp only at hmin
    simp only [b, SubframeBuffer.area, Rect.toBox2D, Grid.size, Box2D.width, Box2D.height]
    rw [Nat.add_sub_cancel' hmin.1, Nat.add_sub_cancel' hmin.2]
  refine ⟨b, hb, ⟨?_, fun y x => rfl⟩, harea⟩
  rw [harea]
  exact hfit

theorem mapM_cutBuffer_spec {tb : TrackingBuffer} :
    ∀ (rs : List Box2D), (∀ r ∈ rs, r.isEmpty = false ∧ tb.data.Fits r) →
      ∃ bs, rs.mapM tb.cutBuffer = some bs ∧ (∀ b ∈ bs, Shows tb.data b) ∧
        bs.map (fun b => b.area.toBox2D) = rs
  | [], _ => ⟨[], rfl, (fun b hb => nomatch hb), rfl⟩
  | r :: rs, h => by
    obtain ⟨hne, hfit⟩ := h r List.mem_cons_self
    rw [Box2D.isEmpty_eq_false_iff] at hne
    obtain ⟨b, hb, hshow, harea⟩ := cutBuffer_spec hfit ⟨hne.1.le, hne.2.le⟩
    obtain ⟨bs, hbs, hshows, hareas⟩ :=
      mapM_cutBuffer_spec rs fun r' hr' => h r' (List.mem_cons_of_mem _ hr')
    refine ⟨b :: bs, ?_, ?_, ?_⟩
    · simp [List.mapM_cons, hb, hbs]
    · intro b' hb'
      rcases List.mem_cons.mp hb' with rfl | hb'
      · exact hshow
      · exact hshows b' hb'
    · rw [List.map_cons, harea, hareas]

/-- The frame `tb` has to send: its ids, and buffers that show `data` on exactly the damaged
pixels of the display. -/
structure Cuts (tb : TrackingBuffer) (f : Frame) : Prop where
  id_eq : f.id = tb.currFrameId
  displayConfig_eq : f.displayConfig = tb.displayConfig
  display_eq : f.display = tb.displayId
  shows : ∀ b ∈ f.buffers, Shows tb.data b
  covers : ∀ p, tb.InDisplay p → (tb.Damaged p ↔ ∃ b ∈ f.buffers, p ∈ b.area.toBox2D)

/-- **A cut never panics; it returns the frame of the damage exactly when there is some, and
afterwards there is none.** -/
theorem cutFrame_spec {tb : TrackingBuffer} (h : tb.WF) :
    (tb.damage = .none ∧ tb.cutFrame = some (none, tb)) ∨
    ∃ f, tb.damage ≠ .none ∧ tb.Cuts f ∧
      tb.cutFrame = some (some f, { tb.clear with currFrameId := tb.currFrameId + 1 }) := by
  cases hd : tb.damage with
  | none => exact Or.inl ⟨rfl, by simp [cutFrame, hd]⟩
  | partialAreas areas =>
    obtain ⟨-, hin⟩ := h.areas areas hd
    obtain ⟨bs, hbs, hshows, hareas⟩ := mapM_cutBuffer_spec areas.inner hin
    refine Or.inr ⟨⟨tb.currFrameId, tb.displayConfig, tb.displayId, bs⟩, Damage.noConfusion,
      ⟨rfl, rfl, rfl, hshows, fun p _ => ?_⟩, ?_⟩
    · simp only [Damaged, hd, BoxSet.Covers, ← hareas, List.mem_map]
      constructor
      · rintro ⟨_, ⟨b, hb, rfl⟩, hp⟩
        exact ⟨b, hb, hp⟩
      · rintro ⟨b, hb, hp⟩
        exact ⟨_, ⟨b, hb, rfl⟩, hp⟩
    · simp [cutFrame, hd, hbs]
  | full =>
    have hfit : tb.data.Fits (Box2D.fromSize tb.display.area.size) := by
      rw [Grid.Fits, h.width_eq, h.height_eq]
      simp only [Box2D.fromSize, Point.zero]
      omega
    obtain ⟨b, hb, hshow, harea⟩ := cutBuffer_spec hfit (by simp [Box2D.fromSize, Point.zero])
    refine Or.inr ⟨⟨tb.currFrameId, tb.displayConfig, tb.displayId, [b]⟩, Damage.noConfusion,
      ⟨rfl, rfl, rfl, ?_, fun p hp => ?_⟩, ?_⟩
    · intro b' hb'
      rw [List.mem_singleton.mp hb']
      exact hshow
    · obtain ⟨hx, hy⟩ := hp
      refine ⟨fun _ => ⟨b, List.mem_singleton_self b, ?_⟩, fun _ => damaged_full hd p⟩
      rw [harea, Box2D.mem_def]
      exact ⟨⟨Nat.zero_le _, hx⟩, Nat.zero_le _, hy⟩
    · simp [cutFrame, hd, hb, h.size_eq]

theorem clear_wf {tb : TrackingBuffer} (h : tb.WF) (n : Nat) :
    TrackingBuffer.WF { tb.clear with currFrameId := n } :=
  ⟨h.size_eq, fun s hs => by simp [clear] at hs⟩

end TrackingBuffer

end ApertureC
