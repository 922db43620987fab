import SpatialSql.Catalog.Basic

/-!
# The MySQL catalog

The spatial functions of MySQL, with its own names and argument counts.
-/

namespace SpatialSql.Catalog

/-- A function of this catalog, which only MySQL has. -/
private def mysqlEntry (name : String) (min : Nat) (max : Option Nat) : Entry :=
  ⟨name, min, max, ["mysql"]⟩

/-- The catalog, in its own order. -/
def mysql : List Entry :=
  [
    -- I/O
    mysqlEntry "AsBinary" 1 (some 1),
    mysqlEntry "AsText" 1 (some 1),
    mysqlEntry "GeomFromText" 1 (some 2),
    -- Constructors
    mysqlEntry "LineString" 2 none,
    mysqlEntry "Point" 2 (some 2),
    -- Accessors
    mysqlEntry "Dimension" 1 (some 1),
    mysqlEntry "EndPoint" 1 (some 1),
    mysqlEntry "Envelope" 1 (some 1),
    mysqlEntry "ExteriorRing" 1 (some 1),
    mysqlEntry "GeometryType" 1 (some 1),
    mysqlEntry "InteriorRingN" 2 (some 2),
    mysqlEntry "IsClosed" 1 (some 1),
    mysqlEntry "IsEmpty" 1 (some 1),
    mysqlEntry "IsSimple" 1 (some 1),
    mysqlEntry "NumInteriorRings" 1 (some 1),
    mysqlEntry "NumPoints" 1 (some 1),
    mysqlEntry "PointN" 2 (some 2),
    mysqlEntry "SRID" 1 (some 1),
    mysqlEntry "StartPoint" 1 (some 1),
    mysqlEntry "X" 1 (some 1),
    mysqlEntry "Y" 1 (some 1),
    -- Measurement
    mysqlEntry "Area" 1 (some 1),
    mysqlEntry "Centroid" 1 (some 1),
    mysqlEntry "Distance" 2 (some 2),
    mysqlEntry "GLength" 1 (some 1),
    mysqlEntry "ST_Distance_Sphere" 2 (some 3),
    -- Operations
    mysqlEntry "Buffer" 2 (some 2),
    -- Predicates
    mysqlEntry "Contains" 2 (some 2),
    mysqlEntry "Crosses" 2 (some 2),
    mysqlEntry "Disjoint" 2 (some 2),
    mysqlEntry "Equals" 2 (some 2),
    mysqlEntry "Intersects" 2 (some 2),
    mysqlEntry "MBRContains" 2 (some 2),
    mysqlEntry "MBRDisjoint" 2 (some 2),
    mysqlEntry "MBREqual" 2 (some 2),
    mysqlEntry "MBRIntersects" 2 (some 2),
    mysqlEntry "MBROverlaps" 2 (some 2),
    mysqlEntry "MBRTouches" 2 (some 2),
    mysqlEntry "MBRWithin" 2 (some 2),
    mysqlEntry "Overlaps" 2 (some 2),
    mysqlEntry "Touches" 2 (some 2),
    mysqlEntry "Within" 2 (some 2)]

end SpatialSql.Catalog
