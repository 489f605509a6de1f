import SchemaQuery.Fragment
import SchemaQuery.Main
import SchemaQuery.Proofs.Completeness
import SchemaQuery.Proofs.ElementQueries
import SchemaQuery.Proofs.Narrowing
import SchemaQuery.Proofs.Soundness
import SchemaQuery.Proofs.Spellings
import SchemaQuery.Proofs.Evaluability
import SchemaQuery.Proofs.Grammar
import SchemaQuery.Proofs.Flattening
import SchemaQuery.Proofs.Operands
import SchemaQuery.Proofs.Rearranging
import SchemaQuery.Proofs.Walking
import SchemaQuery.Proofs.WellFormedness
import SchemaQuery.Proofs.Positions
import SchemaQuery.Proofs.Separation
import SchemaQuery.Proofs.Conservation
import SchemaQuery.Proofs.Unsupported
import SchemaQuery.Proofs.FoldOrder
import SchemaQuery.Proofs.Retrieval
import SchemaQuery.Proofs.Integers
import SchemaQuery.Proofs.Paging
import SchemaQuery.Proofs.Resolution
import SchemaQuery.Proofs.RegistryRuns
import SchemaQuery.Proofs.Rereading
import SchemaQuery.Proofs.Splitting
import SchemaQuery.Proofs.ElementRules
