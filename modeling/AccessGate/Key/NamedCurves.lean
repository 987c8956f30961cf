import AccessGate.Key.Curve

/-!
# Named curves

The curves that keys may be for, by their registered names.  Numbers of more than 320 bits are
written in pieces.
-/

namespace AccessGate.Curve

/-- The number that is written in pieces, of which all but the first have 320 bits. -/
def number (pieces : List Nat) : Nat :=
  pieces.foldl (fun value piece => value * Nat.pow 2 320 + piece) 0

def prime192 : Curve where
  name := [0x2a, 0x86, 0x48, 0xce, 0x3d, 0x03, 0x01, 0x01]
  prime := 0xfffffffffffffffffffffffffffffffeffffffffffffffff
  linear := 0xfffffffffffffffffffffffffffffffefffffffffffffffc
  constant := 0x64210519e59c80e70fa7e9ab72243049feb8deecc146b9b1
  generator :=
    { x := 0x188da80eb03090f67cbf20eb43a18800f4ff0afd82ff1012
      y := 0x7192b95ffc8da78631011ed6b24cdd573f977a11e794811 }
  order := 0xffffffffffffffffffffffff99def836146bc9b1b4d22831

def prime224 : Curve where
  name := [0x2b, 0x81, 0x04, 0x00, 0x21]
  prime := 0xffffffffffffffffffffffffffffffff000000000000000000000001
  linear := 0xfffffffffffffffffffffffffffffffefffffffffffffffffffffffe
  constant := 0xb4050a850c04b3abf54132565044b0b7d7bfd8ba270b39432355ffb4
  generator :=
    { x := 0xb70e0cbd6bb4bf7f321390b94a03c1d356c21122343280d6115c1d21
      y := 0xbd376388b5f723fb4c22dfe6cd4375a05a07476444d5819985007e34 }
  order := 0xffffffffffffffffffffffffffff16a2e0b8f03e13dd29455c5c2a3d

def prime256 : Curve where
  name := [0x2a, 0x86, 0x48, 0xce, 0x3d, 0x03, 0x01, 0x07]
  prime := 0xffffffff00000001000000000000000000000000ffffffffffffffffffffffff
  linear := 0xffffffff00000001000000000000000000000000fffffffffffffffffffffffc
  constant := 0x5ac635d8aa3a93e7b3ebbd55769886bc651d06b0cc53b0f63bce3c3e27d2604b
  generator :=
    { x := 0x6b17d1f2e12c4247f8bce6e563a440f277037d812deb33a0f4a13945d898c296
      y := 0x4fe342e2fe1a7f9b8ee7eb4a7c0f9e162bce33576b315ececbb6406837bf51f5 }
  order := 0xffffffff00000000ffffffffffffffffbce6faada7179e84f3b9cac2fc632551

def prime384 : Curve where
  name := [0x2b, 0x81, 0x04, 0x00, 0x22]
  prime :=
    number [0xffffffffffffffff,
      0xfffffffffffffffffffffffffffffffffffffffffffffffeffffffff0000000000000000ffffffff]
  linear :=
    number [0xffffffffffffffff,
      0xfffffffffffffffffffffffffffffffffffffffffffffffeffffffff0000000000000000fffffffc]
  constant :=
    number [0xb3312fa7e23ee7e4,
      0x988e056be3f82d19181d9c6efe8141120314088f5013875ac656398d8a2ed19d2a85c8edd3ec2aef]
  generator :=
    { x := number [0xaa87ca22be8b0537,
        0x8eb1c71ef320ad746e1d3b628ba79b9859f741e082542a385502f25dbf55296c3a545e3872760ab7]
      y := number [0x3617de4a96262c6f,
        0x5d9e98bf9292dc29f8f41dbd289a147ce9da3113b5f0b8c00a60b1ce1d7e819d7a431d7c90ea0e5f] }
  order :=
    number [0xffffffffffffffff,
      0xffffffffffffffffffffffffffffffffc7634d81f4372ddf581a0db248b0a77aecec196accc52973]

def prime521 : Curve where
  name := [0x2b, 0x81, 0x04, 0x00, 0x23]
  prime := Nat.pow 2 521 - 1
  linear := Nat.pow 2 521 - 4
  constant :=
    number [0x51953eb9618e1c9a1f929a21a0b68540eea2da725b99b315f3,
      0xb8b489918ef109e156193951ec7e937b1652c0bd3bb1bf073573df883d2c34f1ef451fd46b503f00]
  generator :=
    { x := number [0xc6858e06b70404e9cd9e3ecb662395b4429c648139053fb521,
        0xf828af606b4d3dbaa14b5e77efe75928fe1dc127a2ffa8de3348b3c1856a429bf97e7e31c2e5bd66]
      y := number [0x011839296a789a3bc0045c8a5fb42c7d1bd998f54449579b4468,
        0x17afbd17273e662c97ee72995ef42640c550b9013fad0761353c7086a272c24088be94769fd16650] }
  order :=
    number [0x01ffffffffffffffffffffffffffffffffffffffffffffffffff,
      0xfffffffffffffffa51868783bf2f966b7fcc0148f709a5d03bb5c9b8899c47aebb6fb71e91386409]

/-- A curve over a prime of 256 bits without a linear term. -/
def special256 : Curve where
  name := [0x2b, 0x81, 0x04, 0x00, 0x0a]
  prime := 0xfffffffffffffffffffffffffffffffffffffffffffffffffffffffefffffc2f
  linear := 0
  constant := 0x7
  generator :=
    { x := 0x79be667ef9dcbbac55a06295ce870b07029bfcdb2dce28d959f2815b16f81798
      y := 0x483ada7726a3c4655da4fbfc0e1108a8fd17b448a68554199c47d08ffb10d4b8 }
  order := 0xfffffffffffffffffffffffffffffffebaaedce6af48a03bbfd25e8cd0364141

/-- A curve over a random prime of 256 bits. -/
def random256 : Curve where
  name := [0x2b, 0x24, 0x03, 0x03, 0x02, 0x08, 0x01, 0x01, 0x07]
  prime := 0xa9fb57dba1eea9bc3e660a909d838d726e3bf623d52620282013481d1f6e5377
  linear := 0x7d5a0975fc2c3057eef67530417affe7fb8055c126dc5c6ce94a4b44f330b5d9
  constant := 0x26dc5c6ce94a4b44f330b5d9bbd77cbf958416295cf7e1ce6bccdc18ff8c07b6
  generator :=
    { x := 0x8bd2aeb9cb7e57cb2c4b482ffc81b7afb9de27e1e3bd23c23a4453bd9ace3262
      y := 0x547ef835c3dac4fd97f8461a14611dc9c27745132ded8e545c1d54c72f046997 }
  order := 0xa9fb57dba1eea9bc3e660a909d838d718c397aa3b561a6f7901e0e82974856a7

/-- A curve over a random prime of 384 bits. -/
def random384 : Curve where
  name := [0x2b, 0x24, 0x03, 0x03, 0x02, 0x08, 0x01, 0x01, 0x0b]
  prime :=
    number [0x8cb91e82a3386d28,
      0x0f5d6f7e50e641df152f7109ed5456b412b1da197fb71123acd3a729901d1a71874700133107ec53]
  linear :=
    number [0x7bc382c63d8c150c,
      0x3c72080ace05afa0c2bea28e4fb22787139165efba91f90f8aa5814a503ad4eb04a8c7dd22ce2826]
  constant :=
    number [0x04a8c7dd22ce2826,
      0x8b39b55416f0447c2fb77de107dcd2a62e880ea53eeb62d57cb4390295dbc9943ab78696fa504c11]
  generator :=
    { x := number [0x1d1c64f068cf45ff,
        0xa2a63a81b7c13f6b8847a3e77ef14fe3db7fcafe0cbd10e8e826e03436d646aaef87b2e247d4af1e]
      y := number [0x8abe1d7520f9c2a4,
        0x5cb1eb8e95cfd55262b70b29feec5864e19c054ff99129280e4646217791811142820341263c5315] }
  order :=
    number [0x8cb91e82a3386d28,
      0x0f5d6f7e50e641df152f7109ed5456b31f166e6cac0425a7cf3ab6af6b7fc3103b883202e9046565]

/-- A curve over a random prime of 512 bits. -/
def random512 : Curve where
  name := [0x2b, 0x24, 0x03, 0x03, 0x02, 0x08, 0x01, 0x01, 0x0d]
  prime :=
    number [0xaadd9db8dbe9c48b3fd4e6ae33c9fc07cb308db3b3c9d20e,
      0xd6639cca703308717d4d9b009bc66842aecda12ae6a380e62881ff2f2d82c68528aa6056583a48f3]
  linear :=
    number [0x7830a3318b603b89e2327145ac234cc594cbdd8d3df91610,
      0xa83441caea9863bc2ded5d5aa8253aa10a2ef1c98b9ac8b57f1117a72bf2c7b9e7c1ac4d77fc94ca]
  constant :=
    number [0x3df91610a83441caea9863bc2ded5d5aa8253aa10a2ef1c9,
      0x8b9ac8b57f1117a72bf2c7b9e7c1ac4d77fc94cadc083e67984050b75ebae5dd2809bd638016f723]
  generator :=
    { x := number [0x81aee4bdd82ed9645a21322e9c4c6a9385ed9f70b5d916c1,
        0xb43b62eef4d0098eff3b1f78e2d0d48d50d1687b93b97d5f7c6d5047406a5e688b352209bcb9f822]
      y := number [0x7dde385d566332ecc0eabfa9cf7822fdf209f70024a57b1a,
        0xa000c55b881f8111b2dcde494a5f485e5bca4bd88a2763aed1ca2b2fa8f0540678cd1e0f3ad80892] }
  order :=
    number [0xaadd9db8dbe9c48b3fd4e6ae33c9fc07cb308db3b3c9d20e,
      0xd6639cca70330870553e5c414ca92619418661197fac10471db1d381085ddaddb58796829ca90069]

def named? (name : Bytes) : Option Curve :=
  [prime192, prime224, prime256, prime384, prime521, special256, random256, random384,
    random512].find? fun curve => curve.name = name

end AccessGate.Curve
