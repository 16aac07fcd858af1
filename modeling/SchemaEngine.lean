import SchemaEngine.Session
import SchemaEngine.Check.Number
import SchemaEngine.Check.Items
import SchemaEngine.Proofs.Policies
import SchemaEngine.Proofs.Locations
import SchemaEngine.Proofs.Outputs
import SchemaEngine.Proofs.Unions
import SchemaEngine.Proofs.Building
import SchemaEngine.Proofs.Registries
import SchemaEngine.Proofs.Constructions
import SchemaEngine.Proofs.Comparison
import SchemaEngine.Proofs.Labels
import SchemaEngine.Proofs.Undeclared
import SchemaEngine.Proofs.Loosening
import SchemaEngine.Proofs.Refinements
import SchemaEngine.Proofs.CheckTypes
import SchemaEngine.Proofs.Equality
import SchemaEngine.Proofs.Uniqueness
import SchemaEngine.Proofs.Composites
import SchemaEngine.Proofs.Substitutions
import SchemaEngine.Proofs.Documents
import SchemaEngine.Proofs.Multiples
import SchemaEngine.Proofs.Formats
import SchemaEngine.Proofs.ItemCounts
import SchemaEngine.Proofs.Alternatives
import SchemaEngine.Proofs.Reporting
