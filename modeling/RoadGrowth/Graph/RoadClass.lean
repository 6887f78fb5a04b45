/-!
# Road classes
-/

namespace RoadGrowth

/-- The class of a road. -/
inductive RoadClass where
  | highway
  | road
  | street
  deriving DecidableEq

namespace RoadClass

/-- All classes, the widest first. -/
def all : List RoadClass := [highway, road, street]

/-- The name of a class. -/
def name : RoadClass → String
  | highway => "Highway"
  | road => "Road"
  | street => "Street"

/-- The class of a name. -/
def ofName? (text : List Char) : Option RoadClass :=
  all.find? fun roadClass => roadClass.name.toList == text

/-- Width of a road on the map. -/
def nominalWidth : RoadClass → Float32
  | highway => Float32.ofBits 0x3c23d70a
  | road => Float32.ofBits 0x3ba3d70a
  | street => Float32.ofBits 0x3b23d70a

end RoadClass

end RoadGrowth
