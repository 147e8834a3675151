import Mathlib.Data.List.Basic
import MeshLang.Proofs.Evaluation.Closure
import MeshLang.Proofs.Mesh.Operators
import MeshLang.Proofs.Scalar.Ordered

namespace MeshLang

variable {α : Type}

section Placed

variable [Scalar α]

theorem Kind.assemble?_made {kind : Kind} {entries : List (List α)} {data : Data α}
    (assembled : kind.assemble? entries = some data) :
    data.shape = kind.shape ∧ data.size = entries.length := by
  cases kind <;> cases assembled <;> exact ⟨rfl, List.length_map _⟩

namespace Value

variable {mesh : Mesh α} {location : Location}

def Gathered.Suits (mesh : Mesh α) (location : Location) (gathered : Gathered α) : Prop :=
  (gathered.location = none ∨ gathered.location = some location) ∧
    gathered.size = mesh.count gathered.location

omit [Scalar α] in
theorem domain_suits {v w : Value α} (left : v.Suits location) (right : w.Suits location) :
    Meets (fun domain => domain.1 = none ∨ domain.1 = some location) (fun _ => True)
      (domain v w) := by
  unfold domain
  rcases left with leftPlace | leftPlace <;> rcases right with rightPlace | rightPlace <;>
    simp only [leftPlace, rightPlace]
  · exact .ok (.inl rfl)
  · exact .ok (.inr rfl)
  · exact .ok (.inr rfl)
  · split
    · exact .ok (.inr rfl)
    · exact .error trivial

theorem Gathered.extend_suits (proper : mesh.Proper) {gathered : Gathered α} {first v : Value α}
    (suits : gathered.Suits mesh location) (firstFits : first.Fits mesh) (fits : v.Fits mesh)
    (firstSuits : first.Suits location) (vSuits : v.Suits location) :
    Meets (Gathered.Suits mesh location) (fun _ => True) (gathered.extend first v) := by
  unfold Gathered.extend
  dsimp only
  split
  · exact .error trivial
  · have domain := (domain_meets firstFits fits).and (domain_suits firstSuits vSuits)
    apply Meets.bind domain
    intro shared both
    obtain ⟨place, size⟩ := shared
    obtain ⟨⟨count, -, -⟩, there⟩ := both
    refine .bind .any fun tag _ => .ok ?_
    obtain ⟨here, held⟩ := suits
    have inhabited := proper.inhabited location
    change place = none ∨ place = some location at there
    change size = mesh.count place at count
    rcases here with here | here <;> rcases there with rfl | rfl <;>
      rw [here] at held <;> simp only [Suits, here, Mesh.count, Option.or] at held count ⊢
    · exact ⟨.inl trivial, by omega⟩
    · exact ⟨.inr trivial, by omega⟩
    · exact ⟨.inr trivial, by omega⟩
    · exact ⟨.inr trivial, by omega⟩

theorem build_fits (proper : mesh.Proper) (kind : Kind) {components : List (Value α)}
    (fits : ∀ v ∈ components, v.Fits mesh) (suits : ∀ v ∈ components, v.Suits location) :
    Meets (fun v => v.Fits mesh) (fun _ => True) (build kind components) := by
  cases components with
  | nil => exact .error trivial
  | cons first rest =>
    have firstFits := fits first List.mem_cons_self
    have firstSuits := suits first List.mem_cons_self
    have start : Gathered.Suits mesh location
        ⟨first.location, if first.isConstant then 1 else first.size, first.dimensions⟩ := by
      refine ⟨firstSuits, ?_⟩
      cases place : first.location with
      | none => simp [isConstant, place, Mesh.count]
      | some other =>
        have sized := firstFits.sized
        rw [place] at sized
        simpa [isConstant, place] using sized
    have all : ∀ v ∈ rest, v.Fits mesh ∧ v.Suits location := fun v member =>
      ⟨fits v (List.mem_cons_of_mem first member), suits v (List.mem_cons_of_mem first member)⟩
    unfold build
    dsimp only
    split
    · exact .error trivial
    · split
      · exact .error trivial
      · have grows : ∀ gathered : Gathered α, gathered.Suits mesh location → ∀ v ∈ rest,
            Meets (Gathered.Suits mesh location) (fun _ => True) (gathered.extend first v) :=
          fun gathered held v member => Gathered.extend_suits proper held firstFits (all v member).1
            firstSuits (all v member).2
        apply Meets.bind (.foldlM grows start)
        intro gathered held
        split
        · rename_i data assembled
          obtain ⟨shape, size⟩ := Kind.assemble?_made assembled
          refine .ok (.of_shape shape (size.trans ?_))
          rw [List.length_map, List.length_range]
          exact held.2
        · exact .error trivial

end Value

end Placed

theorem Kind.component?_text {kind : Kind} {part : Component} (named : part ∈ kind.components) :
    kind.component? part.text = some part := by
  revert part
  cases kind <;> decide

theorem Value.component?_assembled [Scalar α] {kind : Kind} {entries : List (List α)} {data : Data α}
    (unit : ∀ x : α, Scalar.one * x = x) (assembled : kind.assemble? entries = some data)
    (all : ∀ e ∈ entries, e.length = kind.components.length) {k : Nat} {part : Component}
    (named : kind.components[k]? = some part) (location : Option Location)
    (tag : Option (Dimensions α)) :
    (⟨kind, location, data, tag⟩ : Value α).component? part.text =
      some ⟨.scalar, location, .scalar (entries.map (·.getD k Scalar.zero)), tag⟩ := by
  have known := Kind.component?_text (List.mem_of_getElem? named)
  -- It is enough to read back the entry of a single element.
  have each {ε : Type} {make : List α → ε} {read : ε → α}
      (back : ∀ e : List α, e.length = kind.components.length → read (make e) = e.getD k Scalar.zero) :
      (entries.map make).map read = entries.map (·.getD k Scalar.zero) := by
    rw [List.map_map]
    exact List.map_congr_left fun e member => back e (all e member)
  unfold component?
  dsimp only
  rw [known]
  cases kind with
  | logical | scalar => cases named
  | vector =>
    cases assembled
    rcases k with _ | _ | _ | k <;> cases named
    all_goals
      dsimp only
      rw [each]
      intro e three
      match e, three with
      | [x, y, z], _ => rfl
  | tensor =>
    cases assembled
    rcases k with _ | _ | _ | _ | _ | _ | _ | _ | _ | k <;> cases named
    all_goals
      dsimp only
      rw [each]
      intro e nine
      match e, nine with
      | [xx, xy, xz, yx, yy, yz, zx, zy, zz], _ => rfl
  | symmTensor =>
    cases assembled
    rcases k with _ | _ | _ | _ | _ | _ | k <;> cases named
    all_goals
      dsimp only
      rw [each]
      intro e six
      match e, six with
      | [xx, xy, xz, yy, yz, zz], _ => rfl
  | sphericalTensor =>
    cases assembled
    rcases k with _ | k <;> cases named
    dsimp only
    rw [each]
    intro e one
    match e, one with
    | [ii], _ => exact unit ii

namespace Value

/-- A scalar as a component: a constant is a single number, and what is located lies at one place. -/
inductive IsPart (location : Location) : Value α → Prop where
  | constant (x : α) (tag : Option (Dimensions α)) :
      IsPart location ⟨.scalar, none, .scalar [x], tag⟩
  | located (xs : List α) (tag : Option (Dimensions α)) :
      IsPart location ⟨.scalar, some location, .scalar xs, tag⟩

def element? (v : Value α) (i : Nat) : Option α := (v.scalars?.getD [])[i]?

/-- A component that is not refused beside another one that is located. -/
def joins (first v : Value α) : Bool := v.isConstant || v.size == first.size

namespace IsPart

variable {location : Location} {first v : Value α}

theorem admitted (part : v.IsPart location) : (v.scalars?.isNone || v.isLogical) = false := by
  cases part <;> rfl

theorem scalars?_eq (part : v.IsPart location) : v.scalars? = some (v.scalars?.getD []) := by
  cases part <;> rfl

theorem domain_constant (first_part : first.IsPart location) (part : v.IsPart location)
    (constant : first.isConstant = true) : domain first v = .ok (v.location, v.size) := by
  cases first_part with
  | located => cases constant
  | constant => cases part <;> rfl

theorem domain_located (start : first.IsPart location) (part : v.IsPart location)
    (placed : first.isConstant = false) : domain first v =
      if first.joins v then .ok (first.location, first.size)
      else .error (.sizeMismatch first.size v.size) := by
  cases start with
  | constant => cases placed
  | located xs =>
    cases part with
    | constant => rfl
    | located ys =>
      by_cases same : xs.length = ys.length
      · simp [domain, joins, isConstant, size, Data.size, same]
      · simp [domain, joins, isConstant, size, Data.size, same, Ne.symm same]

end IsPart

variable [Scalar α] {location : Location} {first : Value α} {rest : List (Value α)}

def addTags (tag : Option (Dimensions α)) (components : List (Value α)) :
    Except (FieldError α) (Option (Dimensions α)) :=
  components.foldlM (fun tag v => sumTag constructorName tag v.dimensions) tag

/-- What components have in common, when all but the first are compared with the first. -/
def gather (first : Value α) (rest : List (Value α)) : Except (FieldError α) (Gathered α) :=
  rest.foldlM (·.extend first ·) ⟨first.location, first.size, first.dimensions⟩

theorem Gathered.extend_eq (gathered : Gathered α) {v : Value α} (part : v.IsPart location) :
    gathered.extend first v = (domain first v).bind fun place =>
      (sumTag constructorName gathered.tag v.dimensions).bind fun tag =>
        .ok ⟨gathered.location.or place.1, max gathered.size place.2, tag⟩ := by
  unfold extend
  rw [part.admitted]
  rfl

/-- Behind a constant no sizes are compared: the largest one counts. -/
theorem foldlM_extend_constant (start : first.IsPart location) (constant : first.isConstant = true)
    (parts : ∀ v ∈ rest, v.IsPart location) (gathered : Gathered α) :
    rest.foldlM (·.extend first ·) gathered = (addTags gathered.tag rest).map fun tag =>
      ⟨gathered.location.or (rest.findSome? (·.location)), (rest.map size).foldl max gathered.size,
        tag⟩ := by
  induction rest generalizing gathered with
  | nil => simp [addTags, pure, Except.pure, Except.map]
  | cons v rest ih =>
    have part := parts v List.mem_cons_self
    rw [List.foldlM_cons, gathered.extend_eq part, start.domain_constant part constant, addTags,
      List.foldlM_cons]
    cases sumTag constructorName gathered.tag v.dimensions with
    | error error => rfl
    | ok tag =>
      refine (ih (fun w member => parts w (List.mem_cons_of_mem v member)) _).trans ?_
      rw [List.findSome?_cons, List.map_cons, List.foldl_cons, Option.or_assoc]
      cases v.location <;> rfl

/-- Behind a located component the first one of another size is refused. -/
theorem foldlM_extend_located (start : first.IsPart location) (placed : first.isConstant = false)
    (parts : ∀ v ∈ rest, v.IsPart location) (tag : Option (Dimensions α)) :
    rest.foldlM (·.extend first ·) (⟨first.location, first.size, tag⟩ : Gathered α) =
      (addTags tag (rest.takeWhile first.joins)).bind fun tag =>
        match rest.find? (!first.joins ·) with
        | none => .ok ⟨first.location, first.size, tag⟩
        | some v => .error (.sizeMismatch first.size v.size) := by
  induction rest generalizing tag with
  | nil => rfl
  | cons v rest ih =>
    have part := parts v List.mem_cons_self
    have others := fun w member => parts w (List.mem_cons_of_mem v member)
    rw [List.foldlM_cons, Gathered.extend_eq _ part, start.domain_located part placed]
    cases joins : first.joins v with
    | false => simp [addTags, joins, bind, Except.bind, pure, Except.pure]
    | true =>
      rw [List.takeWhile_cons_of_pos joins, List.find?_cons_of_neg (by simp [joins]), addTags,
        List.foldlM_cons]
      cases sumTag constructorName tag v.dimensions with
      | error error => rfl
      | ok tag =>
        refine Eq.trans ?_ (ih others tag)
        simp [bind, Except.bind]

theorem gather_constant (parts : ∀ v ∈ first :: rest, v.IsPart location)
    (constant : first.isConstant = true) :
    gather first rest = (addTags none (first :: rest)).map fun tag =>
      ⟨first.location.or (rest.findSome? (·.location)), (rest.map size).foldl max first.size, tag⟩ :=
  foldlM_extend_constant (parts first List.mem_cons_self) constant
    (fun v member => parts v (List.mem_cons_of_mem first member)) _

theorem gather_located (parts : ∀ v ∈ first :: rest, v.IsPart location)
    (placed : first.isConstant = false) :
    gather first rest = (addTags none (first :: rest.takeWhile first.joins)).bind fun tag =>
      match rest.find? (!first.joins ·) with
      | none => .ok ⟨first.location, first.size, tag⟩
      | some v => .error (.sizeMismatch first.size v.size) :=
  foldlM_extend_located (parts first List.mem_cons_self) placed
    (fun v member => parts v (List.mem_cons_of_mem first member)) _

def rows (n : Nat) (components : List (Value α)) : List (List α) :=
  (List.range n).map fun i =>
    components.map fun v => (spread n (v.scalars?.getD [])).getD i Scalar.zero

theorem build_eq {kind : Kind} (parts : ∀ v ∈ first :: rest, v.IsPart location)
    (count : (first :: rest).length = kind.components.length) :
    build kind (first :: rest) = (gather first rest).bind fun gathered =>
      match kind.assemble? (rows gathered.size (first :: rest)) with
      | some data => .ok ⟨kind, gathered.location, data, gathered.tag⟩
      | none => .error (.unsupported constructorName kind) := by
  have start := parts first List.mem_cons_self
  have single : (if first.isConstant then 1 else first.size) = first.size := by
    cases start <;> rfl
  have columns : (first :: rest).filterMap (·.scalars?) =
      (first :: rest).map (·.scalars?.getD []) := by
    rw [List.filterMap_congr fun v member => (parts v member).scalars?_eq, List.filterMap_eq_map']
  unfold build
  dsimp only
  rw [if_neg (not_not.mpr count), start.admitted, single, columns]
  simp only [List.map_map]
  rfl

end Value

def Mat3.part (m : Mat3 α) : Component → α
  | .entry axis => m.entry axis axis
  | .cell row column => m.entry row column
  | .isotropic => m.xx

namespace Data

def entries (part : Component) : Data α → List α
  | .scalar _ => []
  | .vector values =>
    match part with
    | .entry axis => values.map (·.entry axis)
    | _ => []
  | .tensor values => values.map (·.part part)

inductive HasPart : Data α → Component → Prop where
  | vector (values : List (Vec3 α)) (axis : Axis) : HasPart (.vector values) (.entry axis)
  | cell (values : List (Mat3 α)) (row column : Axis) : HasPart (.tensor values) (.cell row column)
  | isotropic (values : List (Mat3 α)) : HasPart (.tensor values) .isotropic

theorem hasPart {data : Data α} {kind : Kind} {part : Component} (stored : data.stores kind = true)
    (named : part ∈ kind.components) : data.HasPart part := by
  cases kind <;> cases data <;> cases stored <;> cases part <;>
    first
    | exact .vector _ _
    | exact .cell _ _ _
    | exact .isotropic _
    | simp [Kind.components] at named

theorem HasPart.entries_length {data : Data α} {part : Component} (has : data.HasPart part) :
    (data.entries part).length = data.size := by
  cases has <;> exact List.length_map _

end Data

namespace Value

variable {v w : Value α} {component : Component}

def part (v : Value α) (component : Component) : Value α :=
  ⟨.scalar, v.location, .scalar (v.data.entries component), v.dimensions⟩

theorem component?_eq (stored : v.data.stores v.kind = true)
    (named : component ∈ v.kind.components) :
    v.component? component.text = some (v.part component) := by
  obtain ⟨kind, location, data, tag⟩ := v
  have known := Kind.component?_text named
  have has := Data.hasPart stored named
  dsimp only at known has
  unfold component?
  dsimp only
  rw [known]
  cases has <;> rfl

theorem component?_location {name : String} (found : v.component? name = some w) :
    w.location = v.location := by
  unfold component? at found
  split at found <;> cases found <;> rfl

theorem sumTag_self [ExactScalar α] [LinearOrder α] [OrderedScalar α] (operation : String)
    (tag : Option (Dimensions α)) : sumTag operation tag tag = .ok tag := by
  cases tag with
  | none => rfl
  | some d =>
    have agrees : d.agrees d = true := by
      simp [Dimensions.agrees, Dimensions.exponents, OrderedScalar.eq_iff]
    simp [sumTag, agrees]

end Value

end MeshLang
