import ShaderAnalysis.Hlsl.Builtin

/-!
# Builtin functions

Name, signature and description of the builtin functions, in groups.
-/

namespace ShaderAnalysis.Hlsl

/-- Arithmetic, trigonometry and vectors. -/
def mathFunctions : List (String × String × String) :=
  [("abs", "T abs(T v)", "Absolute value, per component"),
    ("acos", "T acos(T v)", "Arc cosine in radians"),
    ("all", "bool all(T v)", "True when every component is non-zero"),
    ("any", "bool any(T v)", "True when any component is non-zero"),
    ("asin", "T asin(T v)", "Arc sine in radians"),
    ("atan", "T atan(T v)", "Arc tangent in radians"),
    ("atan2", "T atan2(T y, T x)", "Arc tangent of y/x in radians"),
    ("ceil", "T ceil(T v)", "Round up to the nearest integer, per component"),
    ("clamp", "T clamp(T v, T min, T max)", "Clamp v to the range [min, max]"),
    ("cos", "T cos(T v)", "Cosine"),
    ("cosh", "T cosh(T v)", "Hyperbolic cosine"),
    ("cross", "float3 cross(float3 a, float3 b)", "Cross product of two vectors"),
    ("degrees", "T degrees(T radians)", "Convert radians to degrees"),
    ("determinant", "float determinant(matrix m)", "Determinant of a square matrix"),
    ("distance", "float distance(T a, T b)", "Distance between two points"),
    ("dot", "float dot(T a, T b)", "Dot product of two vectors"),
    ("exp", "T exp(T v)", "e raised to the power v"),
    ("exp2", "T exp2(T v)", "2 raised to the power v"),
    ("floor", "T floor(T v)", "Round down to the nearest integer, per component"),
    ("fmod", "T fmod(T x, T y)", "Floating point remainder of x/y"),
    ("frac", "T frac(T v)", "Fractional part of v"),
    ("frexp", "T frexp(T v, out T exp)", "Split a float into mantissa and exponent"),
    ("fwidth", "T fwidth(T v)", "abs(ddx(v)) + abs(ddy(v))"),
    ("isfinite", "bool isfinite(T v)", "True when v is finite"),
    ("isinf", "bool isinf(T v)", "True when v is infinite"),
    ("isnan", "bool isnan(T v)", "True when v is NaN"),
    ("ldexp", "T ldexp(T v, T exp)", "v * 2^exp"),
    ("length", "float length(T v)", "Length of a vector"),
    ("lerp", "T lerp(T a, T b, T t)", "Linear interpolation between a and b by t"),
    ("log", "T log(T v)", "Natural logarithm"),
    ("log10", "T log10(T v)", "Base 10 logarithm"),
    ("log2", "T log2(T v)", "Base 2 logarithm"),
    ("mad", "T mad(T a, T b, T c)", "Fused multiply-add: a * b + c"),
    ("max", "T max(T a, T b)", "Larger of the two arguments"),
    ("min", "T min(T a, T b)", "Smaller of the two arguments"),
    ("modf", "T modf(T v, out T intPart)", "Split v into integer and fractional parts"),
    ("mul", "T mul(T a, T b)", "Matrix or vector multiplication"),
    ("normalize", "T normalize(T v)", "Normalized vector"),
    ("pow", "T pow(T base, T exp)", "base raised to the power exp"),
    ("radians", "T radians(T degrees)", "Convert degrees to radians"),
    ("rcp", "T rcp(T v)", "Reciprocal 1/v"),
    ("reflect", "T reflect(T incident, T normal)", "Reflection vector"),
    ("refract", "T refract(T incident, T normal, float eta)", "Refraction vector"),
    ("round", "T round(T v)", "Round to the nearest integer"),
    ("rsqrt", "T rsqrt(T v)", "Reciprocal square root 1/sqrt(v)"),
    ("saturate", "T saturate(T v)", "Clamp v to the range [0, 1]"),
    ("sign", "T sign(T v)", "Sign of v (-1, 0 or 1)"),
    ("sin", "T sin(T v)", "Sine"),
    ("sincos", "void sincos(T v, out T s, out T c)", "Sine and cosine in one call"),
    ("sinh", "T sinh(T v)", "Hyperbolic sine"),
    ("smoothstep", "T smoothstep(T edge0, T edge1, T v)",
      "Smooth Hermite interpolation between edge0 and edge1"),
    ("sqrt", "T sqrt(T v)", "Square root"),
    ("step", "T step(T edge, T v)", "1 when v >= edge, otherwise 0"),
    ("tan", "T tan(T v)", "Tangent"),
    ("tanh", "T tanh(T v)", "Hyperbolic tangent"),
    ("transpose", "matrix transpose(matrix m)", "Transpose of a matrix"),
    ("trunc", "T trunc(T v)", "Truncate toward zero")]

/-- Texture samples. -/
def textureFunctions : List (String × String × String) :=
  [("tex1D", "float4 tex1D(sampler1D s, float u)", "1D texture sample"),
    ("tex1Dbias", "float4 tex1Dbias(sampler1D s, float4 t)", "1D texture sample with mip bias"),
    ("tex1Dgrad", "float4 tex1Dgrad(sampler1D s, float u, float ddx, float ddy)",
      "1D texture sample with gradients"),
    ("tex1Dlod", "float4 tex1Dlod(sampler1D s, float4 t)", "1D texture sample at an explicit LOD"),
    ("tex1Dproj", "float4 tex1Dproj(sampler1D s, float4 t)", "Projective 1D texture sample"),
    ("tex2D", "float4 tex2D(sampler2D s, float2 uv)", "2D texture sample"),
    ("tex2Dbias", "float4 tex2Dbias(sampler2D s, float4 t)", "2D texture sample with mip bias"),
    ("tex2Dgrad", "float4 tex2Dgrad(sampler2D s, float2 uv, float2 ddx, float2 ddy)",
      "2D texture sample with gradients"),
    ("tex2Dlod", "float4 tex2Dlod(sampler2D s, float4 t)", "2D texture sample at an explicit LOD"),
    ("tex2Dproj", "float4 tex2Dproj(sampler2D s, float4 t)", "Projective 2D texture sample"),
    ("tex3D", "float4 tex3D(sampler3D s, float3 uvw)", "3D texture sample"),
    ("tex3Dbias", "float4 tex3Dbias(sampler3D s, float4 t)", "3D texture sample with mip bias"),
    ("tex3Dgrad", "float4 tex3Dgrad(sampler3D s, float3 uvw, float3 ddx, float3 ddy)",
      "3D texture sample with gradients"),
    ("tex3Dlod", "float4 tex3Dlod(sampler3D s, float4 t)", "3D texture sample at an explicit LOD"),
    ("tex3Dproj", "float4 tex3Dproj(sampler3D s, float4 t)", "Projective 3D texture sample"),
    ("texCUBE", "float4 texCUBE(samplerCUBE s, float3 v)", "Cube map sample"),
    ("texCUBEbias", "float4 texCUBEbias(samplerCUBE s, float4 t)", "Cube map sample with mip bias"),
    ("texCUBEgrad", "float4 texCUBEgrad(samplerCUBE s, float3 v, float3 ddx, float3 ddy)",
      "Cube map sample with gradients"),
    ("texCUBElod", "float4 texCUBElod(samplerCUBE s, float4 t)", "Cube map sample at an explicit LOD"),
    ("texCUBEproj", "float4 texCUBEproj(samplerCUBE s, float4 t)", "Projective cube map sample")]

/-- Conversions, derivatives and bit operations. -/
def intrinsicFunctions : List (String × String × String) :=
  [("asfloat", "float asfloat(T v)", "Reinterpret the bit pattern as float"),
    ("asint", "int asint(T v)", "Reinterpret the bit pattern as int"),
    ("asuint", "uint asuint(T v)", "Reinterpret the bit pattern as uint"),
    ("asdouble", "double asdouble(uint low, uint high)", "Build a double from two 32-bit values"),
    ("clip", "void clip(T v)", "Discard the current pixel when any component of v is below zero"),
    ("countbits", "uint countbits(uint v)", "Number of set bits"),
    ("ddx", "T ddx(T v)", "Screen-space partial derivative along x"),
    ("ddx_coarse", "T ddx_coarse(T v)", "Coarse screen-space partial derivative along x"),
    ("ddx_fine", "T ddx_fine(T v)", "Fine screen-space partial derivative along x"),
    ("ddy", "T ddy(T v)", "Screen-space partial derivative along y"),
    ("ddy_coarse", "T ddy_coarse(T v)", "Coarse screen-space partial derivative along y"),
    ("ddy_fine", "T ddy_fine(T v)", "Fine screen-space partial derivative along y"),
    ("dst", "float4 dst(float4 src0, float4 src1)", "Distance vector"),
    ("faceforward", "T faceforward(T n, T i, T ng)", "Normal flipped to face the viewer"),
    ("firstbithigh", "int firstbithigh(T v)", "Position of the most significant set bit"),
    ("firstbitlow", "int firstbitlow(T v)", "Position of the least significant set bit"),
    ("lit", "float4 lit(float n_dot_l, float n_dot_h, float m)", "Lighting coefficients"),
    ("noise", "float noise(T v)", "Perlin noise (deprecated)"),
    ("reversebits", "T reversebits(T v)", "Reverse the bit order"),
    ("f16tof32", "float f16tof32(uint v)", "Convert half precision to single precision"),
    ("f32tof16", "uint f32tof16(float v)", "Convert single precision to half precision")]

/-- Barriers of compute shaders. -/
def barrierFunctions : List (String × String × String) :=
  [("AllMemoryBarrier", "void AllMemoryBarrier()", "Block until all memory accesses complete"),
    ("AllMemoryBarrierWithGroupSync", "void AllMemoryBarrierWithGroupSync()",
      "Block until all memory accesses complete and every thread in the group reaches this call"),
    ("DeviceMemoryBarrier", "void DeviceMemoryBarrier()", "Block until all device memory accesses complete"),
    ("DeviceMemoryBarrierWithGroupSync", "void DeviceMemoryBarrierWithGroupSync()",
      "Block until all device memory accesses complete and every thread in the group reaches this call"),
    ("GroupMemoryBarrier", "void GroupMemoryBarrier()",
      "Block until all group shared memory accesses complete"),
    ("GroupMemoryBarrierWithGroupSync", "void GroupMemoryBarrierWithGroupSync()",
      "Block until all group shared memory accesses complete and every thread in the group reaches this call")]

/-- Atomic operations of compute shaders. -/
def atomicFunctions : List (String × String × String) :=
  [("InterlockedAdd", "void InterlockedAdd(inout T dest, T value, out T original)", "Atomic add"),
    ("InterlockedAnd", "void InterlockedAnd(inout T dest, T value, out T original)", "Atomic bitwise and"),
    ("InterlockedCompareExchange", "void InterlockedCompareExchange(inout T dest, T compare, T value, out T original)",
      "Atomic compare and exchange"),
    ("InterlockedCompareStore", "void InterlockedCompareStore(inout T dest, T compare, T value)",
      "Atomic compare and store"),
    ("InterlockedExchange", "void InterlockedExchange(inout T dest, T value, out T original)",
      "Atomic exchange"),
    ("InterlockedMax", "void InterlockedMax(inout T dest, T value, out T original)", "Atomic maximum"),
    ("InterlockedMin", "void InterlockedMin(inout T dest, T value, out T original)", "Atomic minimum"),
    ("InterlockedOr", "void InterlockedOr(inout T dest, T value, out T original)", "Atomic bitwise or"),
    ("InterlockedXor", "void InterlockedXor(inout T dest, T value, out T original)", "Atomic bitwise xor")]

/-- Functions that the engine provides. -/
def unityFunctions : List (String × String × String) :=
  [("UnityObjectToClipPos", "float4 UnityObjectToClipPos(float4 pos)",
      "Transform a position from object space to clip space"),
    ("UnityObjectToWorldNormal", "float3 UnityObjectToWorldNormal(float3 normal)",
      "Transform a normal from object space to world space"),
    ("UnityObjectToWorldDir", "float3 UnityObjectToWorldDir(float3 dir)",
      "Transform a direction from object space to world space"),
    ("UnityWorldToObjectDir", "float3 UnityWorldToObjectDir(float3 dir)",
      "Transform a direction from world space to object space"),
    ("UnityWorldSpaceLightDir", "float3 UnityWorldSpaceLightDir(float3 worldPos)",
      "World-space direction from the point towards the main light"),
    ("UnityWorldSpaceViewDir", "float3 UnityWorldSpaceViewDir(float3 worldPos)",
      "World-space direction from the point towards the camera"),
    ("TRANSFORM_TEX", "float2 TRANSFORM_TEX(float2 uv, sampler2D tex)",
      "Apply the texture's scale and offset to uv"),
    ("UNITY_PROJ_COORD", "float4 UNITY_PROJ_COORD(float4 a)", "Projective texture coordinate"),
    ("LinearEyeDepth", "float LinearEyeDepth(float depth)",
      "Convert a depth buffer value to linear eye depth"),
    ("Linear01Depth", "float Linear01Depth(float depth)",
      "Convert a depth buffer value to linear depth in [0, 1]"),
    ("DecodeFloatRGBA", "float DecodeFloatRGBA(float4 enc)", "Decode a float packed into RGBA"),
    ("EncodeFloatRGBA", "float4 EncodeFloatRGBA(float v)", "Pack a float into RGBA")]

/-- All builtin functions in the order of their groups. -/
def functions : List Builtin :=
  [(FunctionCategory.math, mathFunctions), (.texture, textureFunctions), (.intrinsic, intrinsicFunctions),
    (.barrier, barrierFunctions), (.atomic, atomicFunctions), (.unity, unityFunctions)].flatMap
    fun (category, rows) => rows.map fun (name, signature, text) => .function name signature text category

end ShaderAnalysis.Hlsl
