import SpatialSql.Catalog.Basic

/-!
# The PostgreSQL catalog

The spatial functions of PostgreSQL, with the names and argument counts of its
PostGIS extension.
-/

namespace SpatialSql.Catalog

/-- A function of this catalog, which only PostgreSQL has. -/
private def postgresqlEntry (name : String) (min : Nat) (max : Option Nat) : Entry :=
  ⟨name, min, max, ["postgresql"]⟩

/-- The catalog, in its own order. -/
def postgresql : List Entry :=
  [
    -- I/O
    postgresqlEntry "ST_AsBinary" 1 (some 1),
    postgresqlEntry "ST_AsGeoJSON" 1 (some 3),
    postgresqlEntry "ST_AsText" 1 (some 1),
    postgresqlEntry "ST_GeographyFromText" 1 (some 1),
    postgresqlEntry "ST_GeomFromText" 1 (some 2),
    postgresqlEntry "Geography" 1 (some 1),
    -- Constructors
    postgresqlEntry "ST_Collect" 1 (some 2),
    postgresqlEntry "ST_MakeBox2D" 2 (some 2),
    postgresqlEntry "ST_MakeEnvelope" 4 (some 5),
    postgresqlEntry "ST_MakeLine" 1 (some 2),
    postgresqlEntry "ST_MakePoint" 2 (some 4),
    postgresqlEntry "ST_Point" 2 (some 2),
    -- Accessors
    postgresqlEntry "ST_Boundary" 1 (some 1),
    postgresqlEntry "ST_Envelope" 1 (some 1),
    postgresqlEntry "ST_GeometryN" 2 (some 2),
    postgresqlEntry "ST_StartPoint" 1 (some 1),
    postgresqlEntry "ST_Summary" 1 (some 1),
    -- Measurement
    postgresqlEntry "ST_Area" 1 (some 1),
    postgresqlEntry "ST_Azimuth" 2 (some 2),
    postgresqlEntry "ST_Centroid" 1 (some 2),
    postgresqlEntry "ST_ClosestPoint" 2 (some 2),
    postgresqlEntry "ST_Distance" 2 (some 3),
    postgresqlEntry "ST_Distance_Sphere" 2 (some 2),
    postgresqlEntry "ST_Length" 1 (some 2),
    postgresqlEntry "ST_Perimeter" 1 (some 2),
    postgresqlEntry "ST_LineCrossingDirection" 2 (some 2),
    postgresqlEntry "ST_LineInterpolatePoint" 2 (some 2),
    postgresqlEntry "ST_LineLocatePoint" 2 (some 2),
    -- Operations
    postgresqlEntry "ST_Buffer" 2 (some 3),
    postgresqlEntry "ST_Expand" 2 (some 2),
    postgresqlEntry "ST_Extent" 1 (some 1),
    postgresqlEntry "ST_Intersection" 2 (some 2),
    postgresqlEntry "ST_LineSubstring" 3 (some 3),
    postgresqlEntry "ST_Scale" 3 (some 3),
    postgresqlEntry "ST_SetSRID" 2 (some 2),
    postgresqlEntry "ST_Simplify" 2 (some 3),
    postgresqlEntry "ST_SnapToGrid" 2 (some 6),
    postgresqlEntry "ST_Split" 2 (some 2),
    postgresqlEntry "ST_Transform" 2 (some 3),
    -- Predicates
    postgresqlEntry "ST_Contains" 2 (some 2),
    postgresqlEntry "ST_ContainsProperly" 2 (some 2),
    postgresqlEntry "ST_CoveredBy" 2 (some 2),
    postgresqlEntry "ST_Covers" 2 (some 2),
    postgresqlEntry "ST_Crosses" 2 (some 2),
    postgresqlEntry "ST_Disjoint" 2 (some 2),
    postgresqlEntry "ST_DWithin" 3 (some 4),
    postgresqlEntry "ST_Intersects" 2 (some 2),
    postgresqlEntry "ST_Overlaps" 2 (some 2),
    postgresqlEntry "ST_Touches" 2 (some 2),
    postgresqlEntry "ST_Within" 2 (some 2)]

end SpatialSql.Catalog
